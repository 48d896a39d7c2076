import TaRef.Trace

/-!
# Formatted output

`vsnprintf.c` has its own `printf` family: one loop over the format string that reads a directive,
takes its argument and hands the characters of the result, one by one, to an output function together
with the index at which each belongs.  Numbers are built back to front in a buffer of 32 characters.
-/

namespace TaRef
namespace Printf

/-- A character of the source as the byte it is. -/
def ascii (character : Char) : UInt8 := character.toUInt8

/-! ## Output functions -/

/-- `out_fct_type`: what an output function makes of a character and its index. -/
abbrev OutFct (σ : Type) := UInt8 → UInt64 → σ → σ

/-- `_out_buffer`, with the length of the buffer. -/
def outBuffer (maxlen : UInt64) : OutFct Frame := fun character idx buffer =>
  if idx < maxlen then Function.update buffer idx.toNat character else buffer

/-- `_out_null`. -/
def outNull {σ : Type} : OutFct σ := fun _ _ buffer => buffer

/-- `_out_fct`, with the function that it wraps. -/
def outFct {σ : Type} (fct : UInt8 → σ → σ) : OutFct σ := fun character _ arg => fct character arg

/-- What an output function works on, and the index of the next character. -/
structure Output (σ : Type) where
  buffer : σ
  idx : UInt64

namespace Output

variable {σ : Type} (out : OutFct σ)

/-- `out(character, buffer, idx++, maxlen)`. -/
def put (output : Output σ) (character : UInt8) : Output σ where
  buffer := out character output.idx output.buffer
  idx := output.idx + 1

/-- A loop that hands characters to the output function. -/
def puts (output : Output σ) (characters : Bytes) : Output σ := characters.foldl (put out) output

end Output

/-! ## Directives -/

/-- The `FLAGS_` bits. -/
structure Flags where
  zeropad : Bool := false
  left : Bool := false
  plus : Bool := false
  space : Bool := false
  hash : Bool := false
  uppercase : Bool := false
  char : Bool := false
  short : Bool := false
  long : Bool := false
  longLong : Bool := false
  precision : Bool := false
  deriving DecidableEq, Repr

/-- `_is_digit`. -/
def isDigit (ch : UInt8) : Bool := ascii '0' ≤ ch && ch ≤ ascii '9'

/-- The loop of `_atoi`: the number with the digits that come next, and what follows them. -/
def atoi : UInt32 → Bytes → UInt32 × Bytes
  | i, [] => (i, [])
  | i, ch :: str =>
      if isDigit ch then atoi (i * 10 + (ch - ascii '0').toUInt32) str else (i, ch :: str)

/-- A flag character sets its flag. -/
def flagOf (flags : Flags) (ch : UInt8) : Option Flags :=
  if ch = ascii '0' then some { flags with zeropad := true }
  else if ch = ascii '-' then some { flags with left := true }
  else if ch = ascii '+' then some { flags with plus := true }
  else if ch = ascii ' ' then some { flags with space := true }
  else if ch = ascii '#' then some { flags with hash := true }
  else none

/-- The loop that evaluates the flags of a directive. -/
def readFlags : Flags → Bytes → Flags × Bytes
  | flags, [] => (flags, [])
  | flags, ch :: format =>
      match flagOf flags ch with
      | some flags => readFlags flags format
      | none => (flags, ch :: format)

/-- Evaluate the length field; `ptrdiff_t`, `intmax_t` and `size_t` are as wide as `long`. -/
def readLength (flags : Flags) (format : Bytes) : Flags × Bytes :=
  match format with
  | [] => (flags, [])
  | ch :: rest =>
      if ch = ascii 'l' then
        if rest.head? = some (ascii 'l') then
          ({ flags with long := true, longLong := true }, rest.tail)
        else ({ flags with long := true }, rest)
      else if ch = ascii 'h' then
        if rest.head? = some (ascii 'h') then
          ({ flags with short := true, char := true }, rest.tail)
        else ({ flags with short := true }, rest)
      else if ch = ascii 't' ∨ ch = ascii 'j' ∨ ch = ascii 'z' then
        ({ flags with long := true }, rest)
      else (flags, ch :: rest)

/-! ## Arguments -/

/-- An argument of a call, by the type that `va_arg` asks for: an `int`, a `long` or `long long`, a
`double`, a C string and another pointer. -/
inductive Argument (δ : Type)
  | int (value : UInt32)
  | long (value : UInt64)
  | double (value : δ)
  | string (text : Bytes)
  | pointer (address : UInt64)

/-- Where the behaviour of a call is undefined: `va_arg` finds no argument of its type, the loop reads
on behind the NUL of the format, or `_ftoa` reads behind its table of powers. -/
inductive Fault
  | argument
  | format
  | table
  deriving DecidableEq, Repr

section Arguments

variable {δ : Type}

/-- `va_arg(va, int)`. -/
def vaArgInt : List (Argument δ) → Except Fault (UInt32 × List (Argument δ))
  | .int value :: va => .ok (value, va)
  | _ => .error .argument

/-- `va_arg(va, long)`. -/
def vaArgLong : List (Argument δ) → Except Fault (UInt64 × List (Argument δ))
  | .long value :: va => .ok (value, va)
  | _ => .error .argument

/-- `va_arg(va, double)`. -/
def vaArgDouble : List (Argument δ) → Except Fault (δ × List (Argument δ))
  | .double value :: va => .ok (value, va)
  | _ => .error .argument

/-- `va_arg(va, char*)` and the string that lies there. -/
def vaArgString : List (Argument δ) → Except Fault (Bytes × List (Argument δ))
  | .string text :: va => .ok (cString text, va)
  | _ => .error .argument

/-- `va_arg(va, void*)`. -/
def vaArgPointer : List (Argument δ) → Except Fault (UInt64 × List (Argument δ))
  | .pointer address :: va => .ok (address, va)
  | _ => .error .argument

/-- What a directive says up to its specifier: the flags, the width, the precision, the specifier and
the rest of the format, and the arguments that are left. -/
structure Directive (δ : Type) where
  flags : Flags
  width : UInt32
  precision : UInt32
  specifier : UInt8
  format : Bytes
  va : List (Argument δ)

/-- An `int` is negative. -/
def isNegative (value : UInt32) : Bool := 0x80000000 ≤ value

/-- The width that `*` stands for; a negative argument reverses the padding. -/
def starWidth (flags : Flags) (w : UInt32) : Flags × UInt32 :=
  if isNegative w then ({ flags with left := true }, -w) else (flags, w)

/-- The precision that `*` stands for. -/
def starPrecision (prec : UInt32) : UInt32 := if isNegative prec then 0 else prec

/-- Evaluate the width field. -/
def readWidth (flags : Flags) (format : Bytes) (va : List (Argument δ)) :
    Except Fault (Flags × UInt32 × Bytes × List (Argument δ)) :=
  match format with
  | [] => .ok (flags, 0, [], va)
  | ch :: rest =>
      if isDigit ch then
        let (width, format) := atoi 0 (ch :: rest)
        .ok (flags, width, format, va)
      else if ch = ascii '*' then do
        let (w, va) ← vaArgInt va
        return ((starWidth flags w).1, (starWidth flags w).2, rest, va)
      else .ok (flags, 0, ch :: rest, va)

/-- Evaluate the precision field. -/
def readPrecision (flags : Flags) (format : Bytes) (va : List (Argument δ)) :
    Except Fault (Flags × UInt32 × Bytes × List (Argument δ)) :=
  if format.head? = some (ascii '.') then
    let flags := { flags with precision := true }
    match format.tail with
    | [] => .ok (flags, 0, [], va)
    | ch :: rest =>
        if isDigit ch then
          let (precision, format) := atoi 0 (ch :: rest)
          .ok (flags, precision, format, va)
        else if ch = ascii '*' then do
          let (prec, va) ← vaArgInt va
          return (flags, starPrecision prec, rest, va)
        else .ok (flags, 0, ch :: rest, va)
  else .ok (flags, 0, format, va)

/-- Evaluate a directive up to its specifier.  Without one the loop takes the NUL of the format for
it, prints it and goes on behind it. -/
def readDirective (format : Bytes) (va : List (Argument δ)) : Except Fault (Directive δ) := do
  let (flags, format) := readFlags {} format
  let (flags, width, format, va) ← readWidth flags format va
  let (flags, precision, format, va) ← readPrecision flags format va
  let (flags, format) := readLength flags format
  match format with
  | [] => .error .format
  | specifier :: format => .ok { flags, width, precision, specifier, format, va }

end Arguments

/-! ## Numbers -/

/-- `PRINTF_NTOA_BUFFER_SIZE` and `PRINTF_FTOA_BUFFER_SIZE`. -/
def bufferSize : Nat := 32

/-- The characters `buf[0..len)` of a number, the last one stored first. -/
structure NumberBuffer where
  chars : Bytes
  length_le : chars.length ≤ bufferSize

namespace NumberBuffer

/-- The buffer before the first digit. -/
def empty : NumberBuffer := ⟨[], Nat.zero_le _⟩

/-- `len`. -/
def len (buf : NumberBuffer) : Nat := buf.chars.length

/-- `buf[len++] = character`, where there is room. -/
def push (buf : NumberBuffer) (character : UInt8) (room : buf.len < bufferSize) : NumberBuffer :=
  ⟨character :: buf.chars, room⟩

/-- `len--`. -/
def pop (buf : NumberBuffer) : NumberBuffer :=
  ⟨buf.chars.tail, (List.length_tail ▸ Nat.sub_le _ _).trans buf.length_le⟩

/-- What `while ((len < bound) && (len < 32)) buf[len++] = character` leaves. -/
def fill (buf : NumberBuffer) (character : UInt8) (bound : Nat) : NumberBuffer where
  chars := List.replicate (min bound bufferSize - buf.len) character ++ buf.chars
  length_le := by
    have length_le := buf.length_le
    rw [List.length_append, List.length_replicate, len]
    omega

end NumberBuffer

/-- The character of a digit. -/
def digitChar (uppercase : Bool) (digit : Nat) : UInt8 :=
  if digit < 10 then .ofNat (48 + digit)
  else .ofNat ((if uppercase then 65 else 97) + digit - 10)

/-- At most `rounds` rounds of the loop that stores the digits of a value, the lowest first. -/
def ntoaDigits (uppercase : Bool) (base : Nat) : Nat → Nat → NumberBuffer → NumberBuffer
  | 0, _, buf => buf
  | rounds + 1, value, buf =>
      if room : buf.len < bufferSize then
        let buf := buf.push (digitChar uppercase (value % base)) room
        if value / base ≠ 0 then ntoaDigits uppercase base rounds (value / base) buf else buf
      else buf

/-- The part of `_ntoa_format` for `FLAGS_HASH`. -/
def hashPrefix (buf : NumberBuffer) (base : Nat) (prec width : UInt32) (flags : Flags) :
    NumberBuffer :=
  let buf :=
    if !flags.precision ∧ buf.len ≠ 0 ∧ (buf.len = prec.toNat ∨ buf.len = width.toNat) then
      if buf.pop.len ≠ 0 ∧ base = 16 then buf.pop.pop else buf.pop
    else buf
  let buf :=
    if room : base = 16 ∧ !flags.uppercase ∧ buf.len < bufferSize then
      buf.push (ascii 'x') room.2.2
    else if room : base = 16 ∧ flags.uppercase ∧ buf.len < bufferSize then
      buf.push (ascii 'X') room.2.2
    else if room : base = 2 ∧ buf.len < bufferSize then buf.push (ascii 'b') room.2
    else buf
  if room : buf.len < bufferSize then buf.push (ascii '0') room else buf

/-- The part of `_ntoa_format` and of `_ftoa` that stores the sign; `shortened` says when they take
a character back for it. -/
def signPrefix (buf : NumberBuffer) (negative shortened : Bool) (flags : Flags) : NumberBuffer :=
  let buf := if shortened ∧ (negative ∨ flags.plus ∨ flags.space) then buf.pop else buf
  if room : buf.len < bufferSize then
    if negative then buf.push (ascii '-') room
    else if flags.plus then buf.push (ascii '+') room
    else if flags.space then buf.push (ascii ' ') room
    else buf
  else buf

section Output

variable {σ : Type} (out : OutFct σ)

/-- The end of `_ntoa_format` and `_ftoa`: the buffer back to front, filled up with spaces. -/
def putNumber (output : Output σ) (buf : NumberBuffer) (width : UInt32) (flags : Flags) :
    Output σ :=
  let startIdx := output.idx
  let output :=
    if !flags.left ∧ !flags.zeropad then
      output.puts out (List.replicate (width.toNat - buf.len) (ascii ' '))
    else output
  let output := output.puts out buf.chars
  if flags.left then
    output.puts out (List.replicate (width.toNat - (output.idx - startIdx).toNat) (ascii ' '))
  else output

/-- `_ntoa_format`. -/
def ntoaFormat (output : Output σ) (buf : NumberBuffer) (negative : Bool) (base : Nat)
    (prec width : UInt32) (flags : Flags) : Output σ :=
  let buf := if !flags.left then buf.fill (ascii '0') prec.toNat else buf
  let buf := if !flags.left ∧ flags.zeropad then buf.fill (ascii '0') width.toNat else buf
  let buf := if flags.hash then hashPrefix buf base prec width flags else buf
  let buf := signPrefix buf negative (buf.len ≠ 0 ∧ buf.len = width.toNat) flags
  putNumber out output buf width flags

/-- The text of `_ntoa_long` and of `_ntoa_long_long`, which differ in the type of the value only. -/
def ntoa (output : Output σ) (value : Nat) (negative : Bool) (base : Nat) (prec width : UInt32)
    (flags : Flags) : Output σ :=
  let flags := if value = 0 then { flags with hash := false } else flags
  let buf :=
    if !flags.precision ∨ value ≠ 0 then
      ntoaDigits flags.uppercase base bufferSize value .empty
    else .empty
  ntoaFormat out output buf negative base prec width flags

/-- `_ntoa_long`. -/
def ntoaLong (output : Output σ) (value : UInt64) (negative : Bool) (base : Nat)
    (prec width : UInt32) (flags : Flags) : Output σ :=
  ntoa out output value.toNat negative base prec width flags

/-- `_ntoa_long_long`. -/
def ntoaLongLong (output : Output σ) (value : UInt64) (negative : Bool) (base : Nat)
    (prec width : UInt32) (flags : Flags) : Output σ :=
  ntoa out output value.toNat negative base prec width flags

end Output

/-! ## Floating point -/

/-- The operations of the machine on `double` that `_ftoa` uses. -/
structure Doubles (δ : Type) where
  ofInt : Int → δ
  half : δ
  lt : δ → δ → Bool
  eq : δ → δ → Bool
  sub : δ → δ → δ
  mul : δ → δ → δ
  toInt : δ → Int
  toUnsignedLong : δ → Nat

/-- Exact arithmetic. -/
def Doubles.exact : Doubles ℚ where
  ofInt value := value
  half := 1 / 2
  lt left right := left < right
  eq left right := left = right
  sub left right := left - right
  mul left right := left * right
  toInt value := value.num.tdiv value.den
  toUnsignedLong value := (value.num / value.den).toNat

/-- `pow10[prec]`, an array of ten powers of 10. -/
def pow10 (prec : Nat) : Except Fault Int :=
  if prec < 10 then .ok (10 ^ prec) else .error .table

/-- The loop that stores the digits after the point: the buffer, and the `count` of digits that the
precision asks for still, as the unsigned number that it is. -/
def fractionDigits : Nat → Nat → UInt32 → NumberBuffer → UInt32 × NumberBuffer
  | 0, _, count, buf => (count, buf)
  | rounds + 1, frac, count, buf =>
      if room : buf.len < bufferSize then
        let buf := buf.push (.ofNat (48 + frac % 10)) room
        if frac / 10 = 0 then (count - 1, buf)
        else fractionDigits rounds (frac / 10) (count - 1) buf
      else (count, buf)

/-- The loop that stores the digits before the point. -/
def wholeDigits : Nat → Int → NumberBuffer → NumberBuffer
  | 0, _, buf => buf
  | rounds + 1, whole, buf =>
      if room : buf.len < bufferSize then
        let buf := buf.push (.ofInt (48 + whole.tmod 10)) room
        if whole.tdiv 10 = 0 then buf else wholeDigits rounds (whole.tdiv 10) buf
      else buf

section Ftoa

variable {δ σ : Type} (doubles : Doubles δ) (out : OutFct σ)

/-- `whole` and `frac` of `_ftoa` after the rounding; `scale` is `pow10[prec]`. -/
def roundFraction (value : δ) (scale : Int) : Int × Nat :=
  let whole := doubles.toInt value
  let tmp := doubles.mul (doubles.sub value (doubles.ofInt whole)) (doubles.ofInt scale)
  let frac := doubles.toUnsignedLong tmp
  let diff := doubles.sub tmp (doubles.ofInt frac)
  if doubles.lt doubles.half diff then
    if doubles.lt (doubles.ofInt (frac + 1)) (doubles.ofInt scale) then (whole, frac + 1)
    else (whole + 1, 0)
  else if doubles.eq diff doubles.half ∧ (frac = 0 ∨ frac % 2 = 1) then (whole, frac + 1)
  else (whole, frac)

/-- `whole` of `_ftoa` when the precision is zero. -/
def roundWhole (value : δ) (whole : Int) : Int :=
  let diff := doubles.sub value (doubles.ofInt whole)
  if doubles.lt doubles.half diff then whole + 1
  else if doubles.eq diff doubles.half ∧ whole.tmod 2 ≠ 0 then whole + 1
  else whole

/-- The digits that `_ftoa` stores for a value that is not negative. -/
def ftoaDigits (value : δ) (prec : UInt32) : Except Fault NumberBuffer := do
  let buf := NumberBuffer.empty.fill (ascii '0') (prec.toNat - 9)
  let prec := prec.toNat - buf.len
  let scale ← pow10 prec
  let (whole, frac) := roundFraction doubles value scale
  if prec = 0 then return wholeDigits bufferSize (roundWhole doubles value whole) buf
  else
    let (count, buf) := fractionDigits bufferSize frac (.ofNat prec) buf
    let buf := buf.fill (ascii '0') (buf.len + count.toNat)
    let buf := if room : buf.len < bufferSize then buf.push (ascii '.') room else buf
    return wholeDigits bufferSize whole buf

/-- `_ftoa`; for a value above `thres_max` it returns the index 0. -/
def ftoa (output : Output σ) (value : δ) (prec width : UInt32) (flags : Flags) :
    Except Fault (Output σ) := do
  let negative := doubles.lt value (doubles.ofInt 0)
  let value := if negative then doubles.sub (doubles.ofInt 0) value else value
  let prec := if flags.precision then prec else 6
  let buf ← ftoaDigits doubles value prec
  if doubles.lt (doubles.ofInt 0x7FFFFFFF) value then return { output with idx := 0 }
  else
    let buf := if !flags.left ∧ flags.zeropad then buf.fill (ascii '0') width.toNat else buf
    return putNumber out output (signPrefix buf negative (buf.len = width.toNat) flags) width flags

end Ftoa

/-! ## The conversions -/

/-- `char` is signed on SGX and unsigned on Keystone. -/
inductive CharType
  | signed
  | unsigned
  deriving DecidableEq, Repr

/-- What an `int` argument is worth to `%d` and `%i`. -/
def signedValue (charType : CharType) (flags : Flags) (argument : UInt32) : Int :=
  if flags.char then
    match charType with
    | .signed => Int.bmod argument.toNat (2 ^ 8)
    | .unsigned => (argument.toNat % 2 ^ 8 : Nat)
  else if flags.short then Int.bmod argument.toNat (2 ^ 16)
  else wrapInt argument.toNat

/-- What an `unsigned int` argument is worth to the other integer conversions. -/
def unsignedValue (flags : Flags) (argument : UInt32) : Nat :=
  if flags.char then argument.toNat % 2 ^ 8
  else if flags.short then argument.toNat % 2 ^ 16
  else argument.toNat

/-- The base of an integer conversion. -/
def baseOf (specifier : UInt8) : Nat :=
  if specifier = ascii 'x' ∨ specifier = ascii 'X' then 16
  else if specifier = ascii 'o' then 8
  else if specifier = ascii 'b' then 2
  else 10

/-- The specifier of a signed conversion. -/
def isSigned (specifier : UInt8) : Bool := specifier = ascii 'i' ∨ specifier = ascii 'd'

/-- The flags that an integer conversion goes by. -/
def integerFlags (specifier : UInt8) (flags : Flags) : Flags where
  zeropad := flags.zeropad && !flags.precision
  left := flags.left
  plus := flags.plus && isSigned specifier
  space := flags.space && isSigned specifier
  hash := flags.hash && baseOf specifier != 10
  uppercase := flags.uppercase || specifier == ascii 'X'
  char := flags.char
  short := flags.short
  long := flags.long
  longLong := flags.longLong
  precision := flags.precision

section Conversions

variable {δ σ : Type} (doubles : Doubles δ) (charType : CharType) (out : OutFct σ)

/-- The cases `d`, `i`, `u`, `x`, `X`, `o` and `b`. -/
def convertInteger (directive : Directive δ) (output : Output σ) :
    Except Fault (List (Argument δ) × Output σ) := do
  let base := baseOf directive.specifier
  let flags := integerFlags directive.specifier directive.flags
  if isSigned directive.specifier then
    if flags.longLong then
      let (value, va) ← vaArgLong directive.va
      let value := Int.bmod value.toNat (2 ^ 64)
      return (va, ntoaLongLong out output (.ofNat value.natAbs) (value < 0) base
        directive.precision directive.width flags)
    else if flags.long then
      let (value, va) ← vaArgLong directive.va
      let value := Int.bmod value.toNat (2 ^ 64)
      return (va, ntoaLong out output (.ofNat value.natAbs) (value < 0) base
        directive.precision directive.width flags)
    else
      let (value, va) ← vaArgInt directive.va
      let value := signedValue charType flags value
      return (va, ntoaLong out output (.ofNat value.natAbs) (value < 0) base
        directive.precision directive.width flags)
  else
    if flags.longLong then
      let (value, va) ← vaArgLong directive.va
      return (va, ntoaLongLong out output value false base
        directive.precision directive.width flags)
    else if flags.long then
      let (value, va) ← vaArgLong directive.va
      return (va, ntoaLong out output value false base
        directive.precision directive.width flags)
    else
      let (value, va) ← vaArgInt directive.va
      return (va, ntoaLong out output (.ofNat (unsignedValue flags value)) false base
        directive.precision directive.width flags)

/-- The spaces before a text of `shown` characters, or behind it. -/
def spaces (width : UInt32) (shown : Nat) (present : Bool) : Bytes :=
  if present then List.replicate (width.toNat - shown) (ascii ' ') else []

/-- The case `c`. -/
def convertChar (directive : Directive δ) (output : Output σ) :
    Except Fault (List (Argument δ) × Output σ) := do
  let output := output.puts out (spaces directive.width 1 !directive.flags.left)
  let (character, va) ← vaArgInt directive.va
  let output := output.put out character.toUInt8
  return (va, output.puts out (spaces directive.width 1 directive.flags.left))

/-- The case `s`; the length is an `unsigned int`. -/
def convertString (directive : Directive δ) (output : Output σ) :
    Except Fault (List (Argument δ) × Output σ) := do
  let (p, va) ← vaArgString directive.va
  let length := p.length % 2 ^ 32
  let shown := if directive.flags.precision then min length directive.precision.toNat else length
  let output := output.puts out (spaces directive.width shown !directive.flags.left)
  let output := output.puts out
    (if directive.flags.precision then p.take directive.precision.toNat else p)
  return (va, output.puts out (spaces directive.width shown directive.flags.left))

/-- The case `p`. -/
def convertPointer (directive : Directive δ) (output : Output σ) :
    Except Fault (List (Argument δ) × Output σ) := do
  let (address, va) ← vaArgPointer directive.va
  return (va, ntoaLongLong out output address false 16 directive.precision 16
    { directive.flags with zeropad := true, uppercase := true })

/-- The `switch` over the specifier. -/
def convert (directive : Directive δ) (output : Output σ) :
    Except Fault (List (Argument δ) × Output σ) :=
  if directive.specifier ∈ ['d', 'i', 'u', 'x', 'X', 'o', 'b'].map ascii then
    convertInteger charType out directive output
  else if directive.specifier ∈ ['f', 'F'].map ascii then do
    let (value, va) ← vaArgDouble directive.va
    return (va, ← ftoa doubles out output value directive.precision directive.width directive.flags)
  else if directive.specifier = ascii 'c' then convertChar out directive output
  else if directive.specifier = ascii 's' then convertString out directive output
  else if directive.specifier = ascii 'p' then convertPointer out directive output
  else if directive.specifier = ascii '%' then .ok (directive.va, output.put out (ascii '%'))
  else .ok (directive.va, output.put out directive.specifier)

/-! ## The loop over the format -/

/-- At most `rounds` rounds of the loop of `_vsnprintf`.  Each takes a character of the format at
least. -/
def vsnprintfLoop : Nat → Bytes → List (Argument δ) → Output σ → Except Fault (Output σ)
  | 0, _, _, output => .ok output
  | _ + 1, [], _, output => .ok output
  | rounds + 1, character :: format, va, output =>
      if character ≠ ascii '%' then vsnprintfLoop rounds format va (output.put out character)
      else do
        let directive ← readDirective format va
        let (va, output) ← convert doubles charType out directive output
        vsnprintfLoop rounds directive.format va output

/-- `_vsnprintf` up to the NUL that it puts behind its output. -/
def formatTo (buffer : σ) (format : Bytes) (va : List (Argument δ)) : Except Fault (Output σ) :=
  vsnprintfLoop doubles charType out (cString format).length (cString format) va ⟨buffer, 0⟩

/-- `_vsnprintf`: what it returns and what the output function leaves. -/
def vsnprintfWith (buffer : σ) (maxlen : UInt64) (format : Bytes) (va : List (Argument δ)) :
    Except Fault (Int × σ) := do
  let output ← formatTo doubles charType out buffer format va
  let idx := if output.idx < maxlen then output.idx else maxlen - 1
  return (wrapInt output.idx.toNat, out 0 idx output.buffer)

end Conversions

section Entries

variable {δ : Type} (doubles : Doubles δ) (charType : CharType)

/-- `vsnprintf`; without a buffer it counts only. -/
def vsnprintf (buffer : Option Frame) (count : UInt64) (format : Bytes) (va : List (Argument δ)) :
    Except Fault (Int × Option Frame) :=
  match buffer with
  | some frame => do
      let (retval, frame) ← vsnprintfWith doubles charType (outBuffer count) frame count format va
      return (retval, some frame)
  | none => do
      let (retval, _) ← vsnprintfWith doubles charType outNull () count format va
      return (retval, none)

/-- `snprintf`. -/
def snprintf (buffer : Option Frame) (count : UInt64) (format : Bytes) (va : List (Argument δ)) :
    Except Fault (Int × Option Frame) :=
  vsnprintf doubles charType buffer count format va

/-- `sprintf`, with `(size_t)-1` for the length of the buffer. -/
def sprintf (buffer : Option Frame) (format : Bytes) (va : List (Argument δ)) :
    Except Fault (Int × Option Frame) :=
  vsnprintf doubles charType buffer (-1) format va

/-- `fctprintf`, with the function that takes the characters and what it works on. -/
def fctprintf {σ : Type} (fct : UInt8 → σ → σ) (arg : σ) (format : Bytes)
    (va : List (Argument δ)) : Except Fault (Int × σ) :=
  vsnprintfWith doubles charType (outFct fct) arg (-1) format va

end Entries

end Printf
end TaRef
