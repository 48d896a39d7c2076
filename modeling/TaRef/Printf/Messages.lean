import TaRef.Printf.Integers

/-!
# Messages of the enclave

`trace_printf`, `tee_printf` and `printf` format their arguments with the `vsnprintf` of the
repository.  With it `trace_vprintf` gets what it is promised, and the bytes that the tests print in
hexadecimal can be read back from the output of the enclave.
-/

namespace TaRef

namespace Frame

/-- The first bytes of a buffer. -/
def bytes (frame : Frame) (count : Nat) : Bytes := (List.range count).map fun index : Nat => frame index

/-- The string that a reader finds in a buffer with a NUL. -/
theorem cString_bytes {frame : Frame} {text : Bytes} {count : Nat} (fits : text.length < count) :
    cString ((frame.store (text ++ [0])).bytes count) = cString text := by
  have bytes_eq : (frame.store (text ++ [0])).bytes count =
      text ++ 0 :: ((frame.store (text ++ [0])).bytes count).drop (text.length + 1) := by
    apply List.ext_getElem
    · simp only [bytes, List.length_map, List.length_range, List.length_append, List.length_cons,
        List.length_drop]
      omega
    · intro index index_lt _
      rcases Nat.lt_trichotomy index text.length with inside | rfl | past
      · rw [List.getElem_append_left inside, ← @store_holds frame text index inside]
        simp [bytes]
      · simp [bytes, store_ends]
      · obtain ⟨rest, rfl⟩ := Nat.exists_eq_add_of_lt past
        rw [List.getElem_append_right (by omega), List.getElem_cons]
        simp [bytes, show text.length + rest + 1 - text.length = rest + 1 by omega,
          Nat.add_right_comm]
  rw [bytes_eq, cString, cString, List.takeWhile_append]
  split
  case isTrue whole =>
    rw [List.takeWhile_cons_of_neg (by simp), List.append_nil]
    exact (List.takeWhile_prefix _).eq_of_length whole |>.symm
  case isFalse => rfl

end Frame

namespace Printf

/-! ## Messages -/

section Messages

variable {δ : Type} (doubles : Doubles δ) (charType : CharType)

/-- `trace_printf`: what `buf` holds when it goes to `ocall_print_string`. -/
def tracePrintf (frame : Frame) (format : Bytes) (va : List (Argument δ)) :
    Except Fault Frame := do
  let (n, buf) ← vsnprintfWith doubles charType (outBuffer (256 - 1)) frame (256 - 1) format va
  if n = 0 ∨ buf (n - 1) ≠ newline then
    return Function.update (Function.update buf n newline) (n + 1) 0
  else return buf

/-- `tee_printf` and `printf`: what they return and the string that they print; the buffer has
`bufsiz` bytes. -/
def teePrintf (bufsiz : UInt64) (format : Bytes) (va : List (Argument δ)) :
    Except Fault (Int × Bytes) := do
  let (_, buf) ← vsnprintfWith doubles charType (outBuffer bufsiz) (fun _ => 0) bufsiz format va
  let printed := cString (buf.bytes bufsiz.toNat)
  return (wrapInt printed.length + 1, printed)

variable {doubles charType} {format text : Bytes} {va : List (Argument δ)} {retval : Int}

/-- What `vsnprintf` leaves in a buffer that is not empty. -/
theorem vsnprintfWith_outBuffer (moderate : Moderate doubles va)
    (sends : fctprintf doubles charType collect [] format va = .ok (retval, text ++ [0]))
    (text_lt : text.length < 2 ^ 64) (frame : Frame) {count : UInt64} (positive : count ≠ 0) :
    vsnprintfWith doubles charType (outBuffer count) frame count format va =
      .ok (wrapInt text.length, frame.store (text.take (count.toNat - 1) ++ [0])) := by
  obtain ⟨text', sent_eq, retval_eq, stores, -⟩ :=
    vsnprintf_of_sends moderate sends (by simpa using text_lt) frame count
  obtain rfl : text = text' := List.append_cancel_right sent_eq
  rw [vsnprintf_some, if_neg positive] at stores
  rcases formats : vsnprintfWith doubles charType (outBuffer count) frame count format va with
    fault | ⟨retval', frame'⟩
  · rw [formats] at stores
    cases stores
  · rw [formats] at stores
    simp only [Except.map, Except.ok.injEq, Prod.mk.injEq, Option.some.injEq] at stores
    rw [stores.1, stores.2, retval_eq]

/-- `trace_printf` is `trace_vprintf` on the characters that its arguments stand for. -/
theorem tracePrintf_eq (moderate : Moderate doubles va)
    (sends : fctprintf doubles charType collect [] format va = .ok (retval, text ++ [0]))
    (text_lt : text.length < 2 ^ 31) (frame : Frame) :
    tracePrintf doubles charType frame format va =
      .ok (traceVprintf frame (.message text text_lt)).frame := by
  have length_eq : wrapInt text.length = text.length := by
    rw [wrapInt]
    apply Int.bmod_eq_of_le <;> omega
  have stores := vsnprintfWith_outBuffer moderate sends (by omega) frame (by decide : (255 : UInt64) ≠ 0)
  rw [length_eq] at stores
  have sizes : (256 - 1 : UInt64) = 255 := by decide
  by_cases other : (Formatted.message text text_lt).result = 0 ∨
      frame.store ((Formatted.message text text_lt).stored 255)
        ((Formatted.message text text_lt).result - 1) ≠ newline
  case pos =>
    rw [traceVprintf_of_other other, tracePrintf, sizes, stores]
    exact if_pos other
  case neg =>
    rw [tracePrintf, sizes, stores]
    rw [not_or, not_not] at other
    rw [traceVprintf_of_newline other.1 other.2]
    exact if_neg (not_or.mpr ⟨other.1, not_not_intro other.2⟩)

/-- A message of at most 254 characters without a NUL is printed as a whole, with the newline that
it lacks. -/
theorem trace_printf_prints (moderate : Moderate doubles va)
    (sends : fctprintf doubles charType collect [] format va = .ok (retval, text ++ [0]))
    (short : text.length ≤ 254) (plain : (0 : UInt8) ∉ text) (frame : Frame) :
    (tracePrintf doubles charType frame format va).map (fun buf => cString buf.buf) =
      .ok (withNewline text) := by
  have text_lt : text.length < 2 ^ 31 := by omega
  have printed := @printed_short frame text text_lt short
  rw [cString_withNewline plain] at printed
  rw [tracePrintf_eq moderate sends text_lt, ← printed]
  rfl

/-- The message `n=7`. -/
theorem trace_printf_prints_number :
    (tracePrintf Doubles.exact .signed (fun _ => 9) (['n', '=', '%', 'u'].map ascii) [.int 7]).map
        (fun buf => cString buf.buf) = .ok (['n', '=', '7', '\n'].map ascii) := by
  have sends : fctprintf Doubles.exact .signed collect [] (['n', '=', '%', 'u'].map ascii) [.int 7] =
      .ok (3, ['n', '=', '7'].map ascii ++ [0]) := by decide +kernel
  have moderate : Moderate Doubles.exact [Argument.int 7] := fun value member => by
    simp at member
  exact trace_printf_prints moderate sends (by decide) (by decide) _

/-- What `tee_printf` prints and returns. -/
theorem teePrintf_eq (moderate : Moderate doubles va)
    (sends : fctprintf doubles charType collect [] format va = .ok (retval, text ++ [0]))
    (text_lt : text.length < 2 ^ 64) {bufsiz : UInt64} (positive : bufsiz ≠ 0) :
    teePrintf doubles charType bufsiz format va =
      .ok (wrapInt (cString (text.take (bufsiz.toNat - 1))).length + 1,
        cString (text.take (bufsiz.toNat - 1))) := by
  have positive' : 0 < bufsiz.toNat := by
    rw [Nat.pos_iff_ne_zero, ne_eq, ← UInt64.toNat_zero, UInt64.toNat_inj]
    exact positive
  have fits : (text.take (bufsiz.toNat - 1)).length < bufsiz.toNat := by
    rw [List.length_take]
    omega
  rw [teePrintf, vsnprintfWith_outBuffer moderate sends text_lt _ positive]
  simp only [bind, Except.bind, pure, Except.pure, Frame.cString_bytes fits]

end Messages

/-! ## Bytes in hexadecimal -/

/-- The format `%02x`. -/
def hexFormat : Bytes := ['%', '0', '2', 'x'].map ascii

/-- The loop that prints the bytes of a buffer with `%02x`. -/
def dump {δ : Type} (doubles : Doubles δ) (charType : CharType) (bufsiz : UInt64) :
    Bytes → Except Fault Bytes
  | [] => .ok []
  | byte :: bytes => do
      let (_, printed) ← teePrintf doubles charType bufsiz hexFormat [.int byte.toUInt32]
      return printed ++ (← dump doubles charType bufsiz bytes)

/-- Read bytes of two hexadecimal digits each. -/
def readBytes : Bytes → Option Bytes
  | [] => some []
  | [_] => none
  | high :: low :: text => do
      let value ← (digitAlphabet false 16 (by decide)).read [high, low]
      return .ofNat value :: (← readBytes text)

section Dump

variable {δ : Type} {doubles : Doubles δ} {charType : CharType}

/-- The fields of `%02x`. -/
def hexFields : Fields where
  flags := [.zero]
  width := some (.number
    { chars := [ascii '2']
      nonempty := List.cons_ne_nil _ _
      digits := fun ch member => by
        rw [List.mem_singleton.mp member]
        decide })
  width_plain := by
    rintro digits ⟨⟩
    decide
  precision := none
  length := none

theorem not_continues_hexFields : ¬ hexFields.Continues (ascii 'x') := by
  rintro (letter | point | digit)
  · exact absurd letter (by decide)
  · exact absurd point (by decide)
  · change isDigit (ascii 'x') = true at digit
    exact absurd digit (by decide)

/-- The piece that `%02x` is. -/
def hexPiece : Piece := .directive hexFields (ascii 'x') not_continues_hexFields (by decide)

theorem formatText_hexPiece : formatText [hexPiece] = hexFormat := by decide +kernel

/-- The characters of a byte in hexadecimal. -/
def hexText (byte : UInt8) : Bytes := (digitAlphabet false 16 (by decide)).numeral byte.toNat 2

theorem keptDigits_byte {value : Nat} (value_lt : value < 256) :
    keptDigits 16 value 0 2 { zeropad := true } = 2 := by
  have log_lt : Nat.log 16 value < 2 := Nat.log_lt_of_lt_pow' (by decide) (by omega)
  have stored : storedDigits 16 value false ≤ 2 := by
    rw [storedDigits, if_neg (by simp)]
    omega
  have padded : paddedDigits 16 value 0 2 { zeropad := true } = 2 := by
    change max (max (storedDigits 16 value false) (min 0 bufferSize)) (min 2 bufferSize) = 2
    rw [bufferSize]
    omega
  rw [keptDigits, Int.natAbs_natCast, padded]
  simp

theorem ntoaText_byte {value : Nat} (value_lt : value < 256) :
    ntoaText value false 16 0 2 { zeropad := true } =
      (digitAlphabet false 16 (by decide)).numeral value 2 := by
  have chars := @ntoaBuffer_chars 16 (by decide) (by decide) value { zeropad := true }
    (by simp) 0 2
  have positive : decide ((value : Int) < 0) = false :=
    decide_eq_false (Int.not_lt.mpr (Int.natCast_nonneg _))
  rw [keptDigits_byte value_lt, Int.natAbs_natCast, positive] at chars
  have sign : signText value { zeropad := true } 2 = [] := by
    rw [signText, if_pos (by decide), if_neg (Int.not_lt.mpr (Int.natCast_nonneg _))]
    rfl
  calc ntoaText value false 16 0 2 { zeropad := true }
    _ = (ntoaBuffer value false 16 0 2 { zeropad := true }).chars := rfl
    _ = signText value { zeropad := true } 2 ++
        (digitAlphabet false 16 (by decide)).numeral value 2 := chars
    _ = (digitAlphabet false 16 (by decide)).numeral value 2 := by rw [sign, List.nil_append]

theorem meaning_hexPiece (byte : UInt8) :
    hexPiece.meaning doubles charType [.int byte.toUInt32] = .ok ([], .text (hexText byte)) := by
  have emits : emissionOf doubles charType
      ⟨{ zeropad := true }, 2, 0, ascii 'x', [], [.int byte.toUInt32]⟩ =
        .ok ([], .text (hexText byte)) := by
    have integer : ascii 'x' ∈ ['d', 'i', 'u', 'x', 'X', 'o', 'b'].map ascii := by decide
    have takes : integerArgument charType (δ := δ)
        ⟨{ zeropad := true }, 2, 0, ascii 'x', [], [.int byte.toUInt32]⟩ =
          .ok ((byte.toUInt32.toNat : Int), []) := rfl
    rw [emissionOf, if_pos integer, integerText_eq, takes]
    have positive : decide ((byte.toUInt32.toNat : Int) < 0) = false :=
      decide_eq_false (Int.not_lt.mpr (Int.natCast_nonneg _))
    have text_eq := @ntoaText_byte byte.toUInt32.toNat (by simpa using byte.toNat_lt)
    have flags_eq : integerFlags (ascii 'x') { zeropad := true } = { zeropad := true } := by decide
    have base_eq : baseOf (ascii 'x') = 16 := by decide
    simp only [bind, Except.bind, Except.map, Int.natAbs_natCast, positive, flags_eq, base_eq,
      text_eq]
    rw [hexText, UInt8.toNat_toUInt32]
    rfl
  exact emits

/-- `%02x`, and characters behind it. -/
theorem meaning_hexPiece_cons (byte : UInt8) (pieces : List Piece) :
    meaning doubles charType (hexPiece :: pieces) [.int byte.toUInt32] =
      (meaning doubles charType pieces []).map fun meant =>
        (.text (hexText byte) :: meant.1, meant.2) := by
  rw [meaning, meaning_hexPiece]
  rcases later : meaning doubles charType pieces [] with fault | ⟨emissions, left⟩
  · simp only [bind, Except.bind, later, Except.map]
  · simp only [bind, Except.bind, later, Except.map, pure, Except.pure]

/-- `%02x` hands the two digits of a byte on. -/
theorem fctprintf_hexFormat (byte : UInt8) :
    fctprintf doubles charType collect [] hexFormat [.int byte.toUInt32] =
      .ok (2, hexText byte ++ [0]) := by
  have emits : emitted doubles charType hexFormat [.int byte.toUInt32] =
      .ok [.text (hexText byte)] := by
    rw [← formatText_hexPiece, emitted_formatText, meaning_hexPiece_cons]
    rfl
  have length_eq : (hexText byte).length = 2 := Alphabet.length_numeral
  have returns : wrapInt (2 : Nat) = 2 := by decide +kernel
  have sent := fctprintf_of_emitted emits (by simp)
  rwa [List.flatMap_singleton, Emission.characters, length_eq, returns] at sent

theorem teePrintf_hexFormat {bufsiz : UInt64} (room : 2 < bufsiz) (byte : UInt8) :
    teePrintf doubles charType bufsiz hexFormat [.int byte.toUInt32] = .ok (3, hexText byte) := by
  have room' : 2 < bufsiz.toNat := UInt64.lt_iff_toNat_lt.mp room
  have moderate : Moderate doubles [Argument.int byte.toUInt32] := fun value member => by
    simp at member
  have positive : bufsiz ≠ 0 := by
    rintro rfl
    exact absurd room (by decide)
  have length_eq : (hexText byte).length = 2 := Alphabet.length_numeral
  have plain : (0 : UInt8) ∉ hexText byte := fun member =>
    ne_of_mem_numeral (by decide) member (by rfl) rfl
  have returns : wrapInt (2 : Nat) + 1 = 3 := by decide +kernel
  have printed : teePrintf doubles charType bufsiz hexFormat [.int byte.toUInt32] = _ :=
    teePrintf_eq moderate (fctprintf_hexFormat byte) (by rw [length_eq]; decide) positive
  rw [List.take_of_length_le (by omega), cString_of_notMem plain, length_eq] at printed
  exact printed.trans (congrArg (fun value => Except.ok (value, hexText byte)) returns)

theorem dump_eq {bufsiz : UInt64} (room : 2 < bufsiz) (bytes : Bytes) :
    dump doubles charType bufsiz bytes = .ok (bytes.flatMap hexText) := by
  induction bytes with
  | nil => rfl
  | cons byte bytes ih =>
      rw [dump, teePrintf_hexFormat room, ih]
      rfl

theorem readBytes_hexText (byte : UInt8) (text : Bytes) :
    readBytes (hexText byte ++ text) = (readBytes text).map (byte :: ·) := by
  have digits := @Alphabet.read_numeral _ _ (digitAlphabet false 16 (by decide)) byte.toNat 2
    (by decide) (by decide)
  obtain ⟨high, low, text_eq⟩ : ∃ high low, hexText byte = [high, low] :=
    List.length_eq_two.mp Alphabet.length_numeral
  change (digitAlphabet false 16 (by decide)).read (hexText byte) = _ at digits
  rw [text_eq, Nat.mod_eq_of_lt (by simpa using byte.toNat_lt)] at digits
  rw [text_eq, List.cons_append, List.singleton_append, readBytes, digits]
  simp only [bind, Option.bind, UInt8.ofNat_toNat]
  cases readBytes text <;> rfl

/-- What the tests print for some bytes reads back as the bytes. -/
theorem dump_reads_back {bufsiz : UInt64} (room : 2 < bufsiz) (bytes : Bytes) :
    ∃ text, dump doubles charType bufsiz bytes = .ok text ∧ readBytes text = some bytes := by
  refine ⟨_, dump_eq room bytes, ?_⟩
  induction bytes with
  | nil => rfl
  | cons byte bytes ih =>
      rw [List.flatMap_cons, readBytes_hexText, ih]
      rfl

/-- Two bytes, with the buffer of a usual `BUFSIZ`. -/
theorem dump_reads_back_two :
    ∃ text, dump Doubles.exact .signed 8192 [255, 16] = .ok text ∧
      readBytes text = some [255, 16] :=
  dump_reads_back (by decide) _

end Dump

end Printf
end TaRef
