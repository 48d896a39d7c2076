import TaRef.Printf.Decimal

/-!
# Programs of a trusted application

The tests and the samples are programs over the internal API.  A program works on a state, prints
with `tee_printf`, and returns unless a call does not return or it reads a variable that nothing has
set.
-/

namespace TaRef

/-- How a program ends without returning. -/
inductive Halt
  | panicked
  | running
  | undefined
  deriving DecidableEq, Repr

/-- The state that a program works on, and what it has printed. -/
structure Process (σ : Type) where
  state : σ
  printed : Bytes

/-- A program over a state. -/
abbrev Program (σ : Type) := StateT (Process σ) (Except Halt)

/-- What `tee_printf` depends on: the sign of `char` and the size of its buffer. -/
structure Stdio where
  charType : Printf.CharType
  bufsiz : UInt64
  large : 256 ≤ bufsiz

/-- A buffer of 1024 bytes and a signed `char`. -/
def Stdio.usual : Stdio where
  charType := .signed
  bufsiz := 1024
  large := by decide

/-- A string literal. -/
def asciiText (literal : String) : Bytes := literal.toList.map Printf.ascii

namespace Program

variable {σ α β : Type}

/-- What a variable holds. -/
def valueOf : Option α → Program σ α
  | none => throw .undefined
  | some value => pure value

/-- Call a function of the internal API. -/
def call (function : σ → Exit α × σ) : Program σ α := fun process =>
  match function process.state with
  | (.returned value, state) => .ok (value, { process with state })
  | (.panicked, _) => .error .panicked
  | (.running, _) => .error .running

/-- `tee_printf`, with arguments that are no `double`. -/
def teePrintf (stdio : Stdio) (format : Bytes) (va : List (Printf.Argument ℚ)) :
    Program σ Unit := fun process =>
  match Printf.teePrintf Printf.Doubles.exact stdio.charType stdio.bufsiz format va with
  | .ok (_, text) => .ok ((), { process with printed := process.printed ++ text })
  | .error _ => .error .undefined

/-- The loop that prints the bytes of a buffer, each with the format. -/
def dump (stdio : Stdio) (format : Bytes) : Bytes → Program σ Unit
  | [] => pure ()
  | byte :: bytes => do
      teePrintf stdio format [.int byte.toUInt32]
      dump stdio format bytes

/-- Run a program a number of times. -/
def times (program : Program σ Unit) : Nat → Program σ Unit
  | 0 => pure ()
  | count + 1 => do
      program
      times program count

/-- The program returns a value and leaves a process. -/
def Returns (program : Program σ α) (process : Process σ) (value : α) (after : Process σ) : Prop :=
  program.run process = .ok (value, after)

theorem returns_pure (value : α) (process : Process σ) :
    (pure value : Program σ α).Returns process value process := rfl

theorem returns_bind {program : Program σ α} {process middle after : Process σ} {value : α}
    {rest : α → Program σ β} {result : β} (first : program.Returns process value middle)
    (later : (rest value).Returns middle result after) :
    (program >>= rest).Returns process result after := by
  rw [Returns, StateT.run_bind, show program.run process = _ from first]
  exact later

theorem returns_valueOf (value : α) (process : Process σ) :
    (valueOf (some value) : Program σ α).Returns process value process := rfl

theorem returns_call {function : σ → Exit α × σ} {state after : σ} {printed : Bytes} {value : α}
    (returns : function state = (.returned value, after)) :
    (call function).Returns ⟨state, printed⟩ value ⟨after, printed⟩ := by
  simp only [Returns, StateT.run, call, returns]

/-- What every run of a program keeps and prints. -/
theorem returns_times {program : Program σ Unit} {keeps : σ → Prop} {text : Bytes}
    (once : ∀ state printed, keeps state →
      ∃ after, program.Returns ⟨state, printed⟩ () ⟨after, printed ++ text⟩ ∧ keeps after)
    (count : Nat) {state : σ} (held : keeps state) (printed : Bytes) :
    ∃ after, (times program count).Returns ⟨state, printed⟩ ()
        ⟨after, printed ++ (List.replicate count text).flatten⟩ ∧ keeps after := by
  induction count generalizing state printed with
  | zero =>
      rw [List.replicate_zero, List.flatten_nil, List.append_nil]
      exact ⟨state, returns_pure () _, held⟩
  | succ count ih =>
      obtain ⟨middle, first, held⟩ := once state printed held
      obtain ⟨after, later, held⟩ := ih held (printed ++ text)
      rw [List.append_assoc, ← List.flatten_cons, ← List.replicate_succ] at later
      exact ⟨after, returns_bind first later, held⟩

/-- A program whose first part stops, stops so. -/
theorem stops_bind {program : Program σ α} {process : Process σ} {halt : Halt}
    (rest : α → Program σ β) (stops : program.run process = .error halt) :
    (program >>= rest).run process = .error halt := by
  rw [StateT.run_bind, stops]
  rfl

/-- A program whose second part stops, stops so. -/
theorem stops_later {program : Program σ α} {process middle : Process σ} {value : α} {halt : Halt}
    {rest : α → Program σ β} (first : program.Returns process value middle)
    (stops : (rest value).run middle = .error halt) :
    (program >>= rest).run process = .error halt := by
  rw [StateT.run_bind, show program.run process = _ from first]
  exact stops

/-- A call of `tee_printf` prints the characters that its arguments stand for. -/
theorem returns_teePrintf {stdio : Stdio} {format text : Bytes}
    {va : List (Printf.Argument ℚ)} {retval : Int}
    (moderate : Printf.Moderate Printf.Doubles.exact va)
    (sends : Printf.fctprintf Printf.Doubles.exact stdio.charType Printf.collect [] format va =
      .ok (retval, text ++ [0]))
    (short : text.length < 256) (plain : (0 : UInt8) ∉ text) (process : Process σ) :
    (teePrintf stdio format va).Returns process ()
      { process with printed := process.printed ++ text } := by
  have large : 256 ≤ stdio.bufsiz.toNat := UInt64.le_iff_toNat_le.mp stdio.large
  have positive : stdio.bufsiz ≠ 0 := by
    intro zero
    rw [zero] at large
    exact absurd large (by decide)
  have printed := Printf.teePrintf_eq moderate sends (by omega) positive
  rw [List.take_of_length_le (by omega), cString_of_notMem plain] at printed
  simp only [Returns, StateT.run, teePrintf, printed]

/-- A message prints its parts. -/
theorem returns_parts {stdio : Stdio} (parts : List Printf.Part)
    (short : (parts.flatMap Printf.Part.characters).length < 256) (process : Process σ) :
    (teePrintf stdio (parts.flatMap Printf.Part.format)
        (parts.flatMap Printf.Part.arguments)).Returns process ()
      { process with printed := process.printed ++ parts.flatMap Printf.Part.characters } :=
  returns_teePrintf (Printf.moderate_parts parts) (Printf.fctprintf_parts parts) short
    (Printf.zero_notMem_parts parts) process

/-- A message without a directive is printed as it is. -/
theorem returns_message {stdio : Stdio} {message : Bytes}
    (plain : ∀ character ∈ message, character ≠ Printf.ascii '%' ∧ character ≠ 0)
    (short : message.length < 256) (process : Process σ) :
    (teePrintf stdio message []).Returns process ()
      { process with printed := process.printed ++ message } := by
  have prints := @returns_parts σ stdio [.text message plain]
  simp only [List.flatMap_singleton] at prints
  exact prints short process

/-- A loop prints what its format stands for, byte by byte. -/
theorem returns_dump {stdio : Stdio} {format : Bytes} {text : UInt8 → Bytes}
    (prints : ∀ byte (process : Process σ),
      (teePrintf stdio format [.int byte.toUInt32]).Returns process ()
        { process with printed := process.printed ++ text byte })
    (bytes : Bytes) (process : Process σ) :
    (dump stdio format bytes).Returns process ()
      { process with printed := process.printed ++ bytes.flatMap text } := by
  induction bytes generalizing process with
  | nil => simp [Returns, dump, StateT.run, pure, StateT.pure, Except.pure]
  | cons byte bytes ih =>
      rw [List.flatMap_cons, ← List.append_assoc]
      exact returns_bind (prints byte process) (ih _)

/-- `%02x` prints two digits. -/
theorem returns_hex (stdio : Stdio) (byte : UInt8) (process : Process σ) :
    (teePrintf stdio Printf.hexFormat [.int byte.toUInt32]).Returns process ()
      { process with printed := process.printed ++ Printf.hexText byte } := by
  have room : 2 < stdio.bufsiz := by
    have large := UInt64.le_iff_toNat_le.mp stdio.large
    exact UInt64.lt_iff_toNat_lt.mpr (by
      have two : (2 : UInt64).toNat = 2 := rfl
      have bound : (256 : UInt64).toNat = 256 := rfl
      omega)
  simp only [Returns, StateT.run, teePrintf, Printf.teePrintf_hexFormat room]

end Program
end TaRef
