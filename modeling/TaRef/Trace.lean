import TaRef.Storage.Run

/-!
# Trace messages

`trace_vprintf` formats a message into a buffer of 256 bytes and uses the length that the whole
message would have had as an index into it.  So it stays in the buffer only while the message does,
with one exception: 256 characters, when the last byte of the buffer was a newline before the call.
-/

namespace TaRef

/-- The memory around `buf`, by index: the buffer is `0` to `255`. -/
abbrev Frame := Int → UInt8

namespace Frame

/-- Store a string of bytes at `buf`. -/
def store (frame : Frame) (bytes : Bytes) : Frame := fun index =>
  if 0 ≤ index then bytes.getD index.toNat (frame index) else frame index

/-- The bytes of `char buf[256]`. -/
def buf (frame : Frame) : Bytes := (List.range 256).map fun index : Nat => frame index

theorem mem_buf {frame : Frame} {index : Nat} (index_lt : index < 256) :
    frame index ∈ frame.buf :=
  List.mem_map_of_mem (List.mem_range.mpr index_lt)

theorem store_of_lt {frame : Frame} {bytes : Bytes} {index : Nat} (inside : index < bytes.length) :
    frame.store bytes index = bytes[index] := by
  simp [store, List.getD_eq_getElem?_getD, inside]

theorem store_of_le {frame : Frame} {bytes : Bytes} {index : Nat} (past : bytes.length ≤ index) :
    frame.store bytes index = frame index := by
  simp [store, List.getD_eq_getElem?_getD, List.getElem?_eq_none past]

/-- A string that lies at the start of the buffer, with a NUL after it, is what a reader of the
buffer takes for its string. -/
theorem cString_buf {frame : Frame} {bytes : Bytes} (fits : bytes.length < 256)
    (holds : ∀ index (inside : index < bytes.length), frame index = bytes[index])
    (ends : frame bytes.length = 0) : cString frame.buf = cString bytes := by
  have buf_eq : frame.buf = bytes ++ 0 :: frame.buf.drop (bytes.length + 1) := by
    apply List.ext_getElem
    · simp only [buf, List.length_map, List.length_range, List.length_append, List.length_cons,
        List.length_drop]
      omega
    · intro index index_lt _
      rcases Nat.lt_trichotomy index bytes.length with inside | rfl | past
      · rw [List.getElem_append_left inside, ← holds index inside]
        simp [buf]
      · simp [buf, ends]
      · obtain ⟨rest, rfl⟩ := Nat.exists_eq_add_of_lt past
        rw [List.getElem_append_right (by omega), List.getElem_cons]
        simp [buf, show bytes.length + rest + 1 - bytes.length = rest + 1 by omega,
          Nat.add_right_comm]
  rw [buf_eq, cString, cString, List.takeWhile_append]
  split
  · rename_i whole
    rw [List.takeWhile_cons_of_neg (by simp), List.append_nil]
    exact (List.takeWhile_prefix _).eq_of_length whole |>.symm
  · rfl

end Frame

/-! ## The function -/

/-- The arguments of a call as `vsnprintf` formats them: a message whose length an `int` holds, or
an encoding error after some characters. -/
inductive Formatted
  | message (text : Bytes) (text_lt : text.length < 2 ^ 31)
  | error (code : Int) (code_lt : code < 0) (text : Bytes)

/-- What `vsnprintf` returns. -/
def Formatted.result : Formatted → Int
  | message text _ => text.length
  | error code _ _ => code

/-- What `vsnprintf` stores in a buffer of `size` bytes. -/
def Formatted.stored (size : Nat) : Formatted → Bytes
  | message text _ => text.take (size - 1) ++ [0]
  | error _ _ text => text.take (size - 1) ++ [0]

/-- The frame when `buf` goes to `ocall_print_string`, and the indices of `buf` that were read and
written before. -/
structure Traced where
  frame : Frame
  accesses : List Int

/-- A newline. -/
def newline : UInt8 := 10

/-- `trace_vprintf`, the same on both platforms. -/
def traceVprintf (frame : Frame) (formatted : Formatted) : Traced :=
  let stored := formatted.stored (256 - 1)
  let n := formatted.result
  let frame := frame.store stored
  let accesses := (List.range stored.length).map Int.ofNat ++ if n = 0 then [] else [n - 1]
  if n = 0 ∨ frame (n - 1) ≠ newline then
    { frame := Function.update (Function.update frame n newline) (n + 1) 0
      accesses := accesses ++ [n, n + 1] }
  else { frame, accesses }

/-- `trace_vprintf` in `api/keystone/trace.c`. -/
def Keystone.traceVprintf (frame : Frame) (formatted : Formatted) : Traced :=
  TaRef.traceVprintf frame formatted

/-- `trace_vprintf` in `api/sgx/trace2.c`. -/
def Sgx.traceVprintf (frame : Frame) (formatted : Formatted) : Traced :=
  TaRef.traceVprintf frame formatted

/-- The string that `ocall_print_string` is handed. -/
def Traced.printed (traced : Traced) : Bytes := cString traced.frame.buf

/-! ## What a call is to do -/

/-- A message with the newline that it lacks. -/
def withNewline (text : Bytes) : Bytes :=
  if text.getLast? = some newline then text else text ++ [newline]

/-- A printed string shows a message: as a whole when the buffer holds it with a newline and the
NUL, a part of it from the start and a newline otherwise. -/
def Formatted.ShownBy (printed : Bytes) : Formatted → Prop
  | message text _ =>
      if text.length ≤ 254 then printed = withNewline text
      else ∃ shown, shown <+: text ∧ printed = shown ++ [newline]
  | error .. => printed.getLast? = some newline

/-- A call stays in its buffer and prints its message as a C string that ends with a newline. -/
structure Traced.Sound (formatted : Formatted) (traced : Traced) : Prop where
  inside : ∀ index ∈ traced.accesses, 0 ≤ index ∧ index < 256
  terminated : 0 ∈ traced.frame.buf
  printed_ends : traced.printed.getLast? = some newline
  shown : formatted.ShownBy traced.printed

/-- The frames and arguments at which a call is sound. -/
def Formatted.Fits (frame : Frame) : Formatted → Prop
  | message text _ =>
      text.length ≤ 254 ∧ 0 ∉ text ∨
        text.length = 256 ∧ frame 255 = newline ∧
          (cString (text.take 254)).getLast? = some newline
  | error .. => False

/-! ## Calls that are sound -/

section Short

variable {frame : Frame} {text : Bytes}

theorem stored_of_le (text_lt : text.length < 2 ^ 31) (short : text.length ≤ 254) :
    (Formatted.message text text_lt).stored 255 = text ++ [0] := by
  rw [Formatted.stored, List.take_of_length_le short]

theorem length_stored_le (formatted : Formatted) : (formatted.stored 255).length ≤ 255 := by
  cases formatted <;> simp [Formatted.stored]

theorem store_ends : frame.store (text ++ [0]) text.length = 0 := by
  rw [Frame.store_of_lt (by simp)]
  simp

theorem store_holds {index : Nat} (inside : index < text.length) :
    frame.store (text ++ [0]) index = text[index] := by
  rw [Frame.store_of_lt (by simp; omega), List.getElem_append_left inside]

/-- The last character of a message, read as `buf[n - 1]`. -/
theorem store_last (nonempty : text ≠ []) :
    frame.store (text ++ [0]) (text.length - 1) = text.getLast nonempty := by
  have positive := List.length_pos_iff.mpr nonempty
  rw [← Int.natCast_pred_of_pos positive, store_holds (Nat.sub_one_lt_of_lt positive),
    List.getLast_eq_getElem]

theorem traceVprintf_of_newline {formatted : Formatted} (nonzero : formatted.result ≠ 0)
    (ends : frame.store (formatted.stored 255) (formatted.result - 1) = newline) :
    traceVprintf frame formatted =
      { frame := frame.store (formatted.stored 255)
        accesses := (List.range (formatted.stored 255).length).map Int.ofNat ++
          [formatted.result - 1] } := by
  simp [traceVprintf, nonzero, ends]

theorem traceVprintf_of_other {formatted : Formatted}
    (other : formatted.result = 0 ∨
      frame.store (formatted.stored 255) (formatted.result - 1) ≠ newline) :
    traceVprintf frame formatted =
      { frame := Function.update (Function.update (frame.store (formatted.stored 255))
          formatted.result newline) (formatted.result + 1) 0
        accesses := (List.range (formatted.stored 255).length).map Int.ofNat ++
          (if formatted.result = 0 then [] else [formatted.result - 1]) ++
          [formatted.result, formatted.result + 1] } := by
  simp [traceVprintf, other]

/-- Where the bytes that `vsnprintf` stores lie. -/
theorem stored_inside {formatted : Formatted} {index : Int}
    (member : index ∈ (List.range (formatted.stored 255).length).map Int.ofNat) :
    0 ≤ index ∧ index < 256 := by
  have stored_le := length_stored_le formatted
  obtain ⟨place, place_lt, rfl⟩ := List.mem_map.mp member
  rw [List.mem_range] at place_lt
  exact ⟨Int.natCast_nonneg place, by simp only [Int.ofNat_eq_natCast]; omega⟩

/-- The accesses around a place in the first 254 bytes lie in the buffer. -/
theorem accesses_inside {formatted : Formatted} (result_ge : 0 ≤ formatted.result)
    (result_le : formatted.result ≤ 254) :
    ∀ index ∈ (traceVprintf frame formatted).accesses, 0 ≤ index ∧ index < 256 := by
  intro index member
  by_cases other : formatted.result = 0 ∨
      frame.store (formatted.stored 255) (formatted.result - 1) ≠ newline
  case pos =>
    rw [traceVprintf_of_other other, List.mem_append, List.mem_append] at member
    rcases member with (written | read) | added
    · exact stored_inside written
    · split_ifs at read with zero
      · exact nomatch read
      · rw [List.mem_singleton] at read
        omega
    · simp only [List.mem_cons, List.not_mem_nil, or_false] at added
      omega
  case neg =>
    rw [not_or, not_not] at other
    rw [traceVprintf_of_newline other.1 other.2, List.mem_append] at member
    rcases member with written | read
    · exact stored_inside written
    · rw [List.mem_singleton] at read
      omega

/-- A message of at most 254 characters leaves itself in the buffer, with its newline and a NUL. -/
theorem traceVprintf_short (frame : Frame) (text_lt : text.length < 2 ^ 31)
    (short : text.length ≤ 254) :
    let traced := traceVprintf frame (.message text text_lt)
    (∀ index (inside : index < (withNewline text).length),
        traced.frame index = (withNewline text)[index]) ∧
      traced.frame (withNewline text).length = 0 := by
  have stored_eq := stored_of_le text_lt short
  by_cases ends : text.getLast? = some newline
  case pos =>
    -- nothing is added
    have nonempty : text ≠ [] := by
      rintro rfl
      exact nomatch ends
    have positive := List.length_pos_iff.mpr nonempty
    rw [List.getLast?_eq_some_getLast nonempty, Option.some.injEq] at ends
    have last_eq : frame.store (text ++ [0]) (text.length - 1) = newline := by
      rw [store_last nonempty, ends]
    rw [traceVprintf_of_newline (by simpa [Formatted.result] using nonempty)
      (by rw [stored_eq]; exact last_eq)]
    have same : withNewline text = text :=
      if_pos (by rw [List.getLast?_eq_some_getLast nonempty, ends])
    simp only [same, stored_eq]
    exact ⟨fun index inside => store_holds inside, store_ends⟩
  case neg =>
    -- the newline and a NUL take the place of the NUL
    have added : withNewline text = text ++ [newline] := if_neg ends
    have other : (Formatted.message text text_lt).result = 0 ∨
        frame.store ((Formatted.message text text_lt).stored 255)
          ((Formatted.message text text_lt).result - 1) ≠ newline := by
      rw [stored_eq, or_iff_not_imp_left]
      intro nonzero last
      have nonempty : text ≠ [] := by
        rintro rfl
        exact nonzero rfl
      rw [Formatted.result, store_last nonempty] at last
      exact ends (by rw [List.getLast?_eq_some_getLast nonempty, last])
    rw [traceVprintf_of_other other]
    simp only [added, stored_eq, Formatted.result, List.length_append, List.length_singleton]
    refine ⟨fun index inside => ?_, by simp⟩
    rcases Nat.lt_or_ge index text.length with before | at_end
    · rw [Function.update_of_ne (by omega), Function.update_of_ne (by omega), store_holds before,
        List.getElem_append_left before]
    · obtain rfl : index = text.length := by omega
      rw [Function.update_of_ne (by omega), Function.update_self]
      simp

theorem length_withNewline_le (text : Bytes) : (withNewline text).length ≤ text.length + 1 := by
  unfold withNewline
  split <;> simp

theorem getLast?_withNewline : (withNewline text).getLast? = some newline := by
  unfold withNewline
  split
  · assumption
  · simp

theorem mem_withNewline {byte : UInt8} (member : byte ∈ text) : byte ∈ withNewline text := by
  unfold withNewline
  split
  · exact member
  · exact List.mem_append_left _ member

/-- What a call prints for a message of at most 254 characters. -/
theorem printed_short {text_lt : text.length < 2 ^ 31} (short : text.length ≤ 254) :
    (traceVprintf frame (.message text text_lt)).printed = cString (withNewline text) := by
  obtain ⟨holds, ends⟩ := traceVprintf_short frame text_lt short
  have length_le := length_withNewline_le text
  exact Frame.cString_buf (by omega) holds ends

theorem cString_withNewline (plain : (0 : UInt8) ∉ text) :
    cString (withNewline text) = withNewline text := by
  apply cString_of_notMem
  unfold withNewline
  split
  · exact plain
  · rw [List.mem_append, List.mem_singleton, not_or]
    exact ⟨plain, by decide⟩

/-- A call with a message of at most 254 characters is sound unless a NUL cuts the message off. -/
theorem sound_short_iff {text_lt : text.length < 2 ^ 31} (short : text.length ≤ 254) :
    (traceVprintf frame (.message text text_lt)).Sound (.message text text_lt) ↔ 0 ∉ text := by
  constructor
  · rintro ⟨-, -, -, shown⟩ member
    rw [Formatted.ShownBy, if_pos short] at shown
    exact notMem_cString _ (shown ▸ mem_withNewline member)
  · intro plain
    obtain ⟨-, ends⟩ := traceVprintf_short frame text_lt short
    have length_le := length_withNewline_le text
    have printed_eq : (traceVprintf frame (.message text text_lt)).printed = withNewline text :=
      (printed_short short).trans (cString_withNewline plain)
    refine ⟨accesses_inside (Int.natCast_nonneg _) ?_, ?_, ?_, ?_⟩
    · exact Int.ofNat_le.mpr short
    · exact ends ▸ Frame.mem_buf (by omega)
    · rw [printed_eq, getLast?_withNewline]
    · rw [Formatted.ShownBy, if_pos short, printed_eq]

end Short

section Long

variable {frame : Frame} {text : Bytes}

theorem stored_of_lt (text_lt : text.length < 2 ^ 31) (long : 254 < text.length) :
    (Formatted.message text text_lt).stored 255 = text.take 254 ++ [0] ∧
      (text.take 254).length = 254 :=
  ⟨rfl, by rw [List.length_take]; omega⟩

theorem reads_last {formatted : Formatted} (nonzero : formatted.result ≠ 0) :
    formatted.result - 1 ∈ (traceVprintf frame formatted).accesses := by
  by_cases other : frame.store (formatted.stored 255) (formatted.result - 1) = newline
  case pos => simp [traceVprintf_of_newline nonzero other]
  case neg => simp [traceVprintf_of_other (.inr other), nonzero]

/-- The string that a call with 256 characters hands on when it adds nothing. -/
theorem traceVprintf_256 (text_lt : text.length < 2 ^ 31) (length_eq : text.length = 256)
    (ends : frame 255 = newline) :
    let traced := traceVprintf frame (.message text text_lt)
    traced.frame = frame.store (text.take 254 ++ [0]) ∧
      ∀ index ∈ traced.accesses, 0 ≤ index ∧ index < 256 := by
  obtain ⟨stored_eq, cut⟩ := stored_of_lt text_lt (by omega)
  have result_eq : (Formatted.message text text_lt).result = 256 := by
    rw [Formatted.result, length_eq]
    rfl
  have stale : frame.store (text.take 254 ++ [0]) (256 - 1) = frame 255 :=
    Frame.store_of_le (by simp [cut] : (text.take 254 ++ [0]).length ≤ 255)
  rw [traceVprintf_of_newline (by rw [result_eq]; decide)
    (by rw [stored_eq, result_eq, stale, ends])]
  refine ⟨by rw [stored_eq], fun index member => ?_⟩
  rcases List.mem_append.mp member with written | read
  · exact stored_inside written
  · rw [List.mem_singleton, result_eq] at read
    omega

/-- A call with 255 characters reads the NUL that cuts them off, and stores its own behind the
buffer. -/
theorem writes_behind_255 {text_lt : text.length < 2 ^ 31} (length_eq : text.length = 255) :
    256 ∈ (traceVprintf frame (.message text text_lt)).accesses := by
  obtain ⟨stored_eq, cut⟩ := stored_of_lt text_lt (by omega)
  have result_eq : (Formatted.message text text_lt).result = 255 := by
    rw [Formatted.result, length_eq]
    rfl
  have reads_nul : frame.store (text.take 254 ++ [0]) (255 - 1) = 0 := by
    have ends : frame.store (text.take 254 ++ [0]) (text.take 254).length = 0 := store_ends
    rwa [cut] at ends
  rw [traceVprintf_of_other (.inr (by rw [stored_eq, result_eq, reads_nul]; decide)), result_eq]
  simp

theorem not_sound_255 {text_lt : text.length < 2 ^ 31} (length_eq : text.length = 255) :
    ¬ (traceVprintf frame (.message text text_lt)).Sound (.message text text_lt) := by
  rintro ⟨inside, -, -, -⟩
  have written := inside 256 (writes_behind_255 length_eq)
  omega

/-- A call with more than 256 characters reads behind the buffer. -/
theorem not_sound_of_gt {text_lt : text.length < 2 ^ 31} (long : 256 < text.length) :
    ¬ (traceVprintf frame (.message text text_lt)).Sound (.message text text_lt) := by
  rintro ⟨inside, -, -, -⟩
  have nonzero : (Formatted.message text text_lt).result ≠ 0 := by
    rw [Formatted.result]
    omega
  have read := inside (text.length - 1) (reads_last nonzero)
  omega

/-- A call with an encoding error reads before the buffer. -/
theorem not_sound_error {code : Int} {code_lt : code < 0} :
    ¬ (traceVprintf frame (.error code code_lt text)).Sound (.error code code_lt text) := by
  rintro ⟨inside, -, -, -⟩
  have nonzero : (Formatted.error code code_lt text).result ≠ 0 := Int.ne_of_lt code_lt
  have read := inside (code - 1) (reads_last nonzero)
  omega

/-- A call with 256 characters goes by the last byte of the buffer, which it has not stored. -/
theorem sound_256_iff {text_lt : text.length < 2 ^ 31} (length_eq : text.length = 256) :
    (traceVprintf frame (.message text text_lt)).Sound (.message text text_lt) ↔
      frame 255 = newline ∧ (cString (text.take 254)).getLast? = some newline := by
  obtain ⟨stored_eq, cut⟩ := stored_of_lt text_lt (by omega)
  have result_eq : (Formatted.message text text_lt).result = 256 := by
    rw [Formatted.result, length_eq]
    rfl
  have stale : frame.store (text.take 254 ++ [0]) (256 - 1) = frame 255 :=
    Frame.store_of_le (by simp [cut] : (text.take 254 ++ [0]).length ≤ 255)
  have ends_of_sound :
      (traceVprintf frame (.message text text_lt)).Sound (.message text text_lt) →
        frame 255 = newline := by
    rintro ⟨inside, -, -, -⟩
    by_contra other
    rw [traceVprintf_of_other (.inr (by rw [stored_eq, result_eq, stale]; exact other)),
      result_eq] at inside
    have written := inside 256 (by simp)
    omega
  have printed_eq (ends : frame 255 = newline) :
      (traceVprintf frame (.message text text_lt)).printed = cString (text.take 254) := by
    rw [Traced.printed, (traceVprintf_256 text_lt length_eq ends).1]
    exact Frame.cString_buf (by omega) (fun index inside => store_holds inside) store_ends
  constructor
  · intro sound
    have ends := ends_of_sound sound
    exact ⟨ends, printed_eq ends ▸ sound.printed_ends⟩
  · rintro ⟨ends, cut_ends⟩
    obtain ⟨frame_eq, inside⟩ := traceVprintf_256 text_lt length_eq ends
    refine ⟨inside, ?_, (printed_eq ends).symm ▸ cut_ends, ?_⟩
    · have terminated : frame.store (text.take 254 ++ [0]) (text.take 254).length = 0 := store_ends
      rw [← frame_eq] at terminated
      exact terminated ▸ Frame.mem_buf (by omega)
    · rw [Formatted.ShownBy, if_neg (by omega), printed_eq ends]
      obtain ⟨shown, shown_eq⟩ := List.getLast?_eq_some_iff.mp cut_ends
      refine ⟨shown, ?_, shown_eq⟩
      calc shown <+: cString (text.take 254) := shown_eq ▸ List.prefix_append _ _
        _ <+: text.take 254 := List.takeWhile_prefix _
        _ <+: text := List.take_prefix _ _

end Long

/-- `trace_vprintf` of both platforms. -/
def Platform.traceVprintf (platform : Platform) : Frame → Formatted → Traced :=
  match platform with
  | .keystone _ => Keystone.traceVprintf
  | .sgx .. => Sgx.traceVprintf

/-- A call of `trace_vprintf` stays in its buffer and prints its message exactly when the message is
a string of at most 254 characters, or has 256 characters, the last byte of the buffer was a newline
before, and so is the last character that is stored. -/
theorem trace_vprintf_sound_iff (platform : Platform) (frame : Frame) (formatted : Formatted) :
    (platform.traceVprintf frame formatted).Sound formatted ↔ formatted.Fits frame := by
  have same : platform.traceVprintf frame formatted = traceVprintf frame formatted := by
    cases platform <;> rfl
  rw [same]
  cases formatted with
  | error code code_lt text => exact iff_of_false not_sound_error id
  | message text text_lt =>
      rcases Nat.lt_or_ge text.length 255 with short | long
      · rw [sound_short_iff (Nat.le_of_lt_succ short), Formatted.Fits]
        have not_256 : text.length ≠ 256 := by omega
        simp [Nat.le_of_lt_succ short, not_256]
      by_cases length_eq : text.length = 256
      · rw [sound_256_iff length_eq, Formatted.Fits]
        simp [length_eq]
      · have unsound : ¬ (traceVprintf frame (.message text text_lt)).Sound
            (.message text text_lt) := by
          by_cases at_255 : text.length = 255
          · exact not_sound_255 at_255
          · exact not_sound_of_gt (by omega)
        refine iff_of_false unsound ?_
        rw [Formatted.Fits]
        omega

/-- A message of 255 characters. -/
def message255 : Formatted :=
  .message (List.replicate 255 97) (by rw [List.length_replicate]; decide)

/-- With it `trace_vprintf` stores a NUL behind its buffer. -/
theorem trace_vprintf_overflows :
    256 ∈ (Keystone.traceVprintf (fun _ => 0) message255).accesses ∧
      ¬ (∀ (platform : Platform) (frame : Frame) (formatted : Formatted),
        (platform.traceVprintf frame formatted).Sound formatted) := by
  have overflows : 256 ∈ (Keystone.traceVprintf (fun _ => 0) message255).accesses :=
    writes_behind_255 List.length_replicate
  refine ⟨overflows, fun sound => ?_⟩
  have inside := (sound (.keystone fun message => message) (fun _ => 0) message255).inside 256
    overflows
  omega

end TaRef
