import TaRef.Trace

/-!
# The log of a trusted application

On OP-TEE `tee_printf` appends to `print_buf`, and a command hands the start of that buffer to the
client, which prints it as a string.  Over all commands of an instance the buffer holds the messages
that were printed, cut off at its size.  The client sees them exactly when its own buffer is longer
than they are, and not longer than `print_buf`.
-/

namespace TaRef
namespace Optee

/-- `print_buf`, of `BUF_SIZE` bytes, and `print_pos`. -/
structure PrintBuffer (size : Nat) where
  bytes : Bytes
  length_eq : bytes.length = size
  pos : Nat

namespace PrintBuffer

variable {size : Nat}

/-- The static buffer of a new instance. -/
def start : PrintBuffer size where
  bytes := List.replicate size 0
  length_eq := List.length_replicate
  pos := 0

/-- What `vsnprintf` stores of a message in a buffer of `count` bytes. -/
def stored (count : Nat) (text : Bytes) : Bytes :=
  if count = 0 then [] else text.take (count - 1) ++ [0]

/-- Some bytes in the place of those from `print_pos` on. -/
def put (buffer : PrintBuffer size) (bytes : Bytes)
    (room : buffer.pos + bytes.length ≤ size) : PrintBuffer size where
  bytes := buffer.bytes.take buffer.pos ++ bytes ++ buffer.bytes.drop (buffer.pos + bytes.length)
  length_eq := by
    have length_eq := buffer.length_eq
    simp only [List.length_append, List.length_take, List.length_drop]
    omega
  pos := buffer.pos

/-- `tee_printf` for the message that its arguments stand for: what it returns and prints.  There is
no result when it stores or reads behind `print_buf`. -/
def teePrintf (buffer : PrintBuffer size) (text : Bytes) :
    Option (Int × Bytes × PrintBuffer size) :=
  if room : buffer.pos + (stored (size - buffer.pos) text).length ≤ size then
    let buffer := buffer.put (stored (size - buffer.pos) text) room
    let buf := buffer.bytes.drop buffer.pos
    if 0 ∈ buf then
      let res := (cString buf).length + 1
      some (res, cString buf, { buffer with pos := buffer.pos + (res - 1) })
    else none
  else none

end PrintBuffer

/-- `TEE_PARAM_TYPES`. -/
def teeParamTypes (t0 t1 t2 t3 : UInt32) : UInt32 := t0 ||| t1 <<< 4 ||| t2 <<< 8 ||| t3 <<< 12

/-- A command of a client: its number, the types of its parameters, the size of the buffer that it
lends as the second parameter, and the messages that the command prints. -/
structure Invocation where
  cmdId : UInt32
  paramTypes : UInt32
  lent : Nat
  texts : List Bytes

section Commands

variable {size : Nat}

/-- The messages of a command, one after the other. -/
def printAll (buffer : PrintBuffer size) (texts : List Bytes) : Option (PrintBuffer size) :=
  texts.foldlM (fun buffer text => (buffer.teePrintf text).map fun printed => printed.2.2) buffer

/-- `run_all_test`: the result, what is stored in the buffer of the client, and the state.  There is
no result when it reads or stores behind `print_buf`. -/
def runAllTest (buffer : PrintBuffer size) (paramTypes : UInt32) (lent : Nat)
    (texts : List Bytes) : Option (TeeResult × Bytes × PrintBuffer size) :=
  if paramTypes ≠ teeParamTypes 0 6 0 0 then some (.errorBadParameters, [], buffer)
  else do
    let buffer ← printAll buffer texts
    if lent ≤ size then return (.success, buffer.bytes.take lent, buffer) else none

/-- `TA_InvokeCommandEntryPoint`. -/
def invoke (buffer : PrintBuffer size) (invocation : Invocation) :
    Option (TeeResult × Bytes × PrintBuffer size) :=
  if invocation.cmdId = 0 then
    runAllTest buffer invocation.paramTypes invocation.lent invocation.texts
  else some (.errorBadParameters, [], buffer)

/-- The commands of a session, in their order. -/
def run (invocations : List Invocation) : Option (PrintBuffer size) :=
  invocations.foldlM (fun buffer invocation => (invoke buffer invocation).map fun done => done.2.2)
    .start

/-- The string that the client prints for what a command has stored in its buffer, which is full of
zeros before.  There is none when the client reads behind its buffer. -/
def shown (lent : Nat) (output : Bytes) : Option Bytes :=
  let buf := output ++ List.replicate (lent - output.length) 0
  if 0 ∈ buf then some (cString buf) else none

end Commands

/-! ## Messages -/

/-- A buffer with a NUL holds a string and the NUL behind it. -/
theorem exists_cString_append {bytes : Bytes} (ends : 0 ∈ bytes) :
    ∃ rest, bytes = cString bytes ++ 0 :: rest := by
  induction bytes with
  | nil => cases ends
  | cons byte bytes ih =>
      by_cases zero : byte = 0
      case pos => exact ⟨bytes, by rw [zero]; rfl⟩
      case neg =>
        obtain ⟨rest, bytes_eq⟩ := ih ((List.mem_cons.mp ends).resolve_left (Ne.symm zero))
        refine ⟨rest, ?_⟩
        have nonzero : (byte != 0) = true := bne_iff_ne.mpr zero
        have cString_eq : cString (byte :: bytes) = byte :: cString bytes :=
          List.takeWhile_cons_of_pos nonzero
        rw [cString_eq, List.cons_append, ← bytes_eq]

theorem cString_append (text rest : Bytes) : cString (text ++ 0 :: rest) = cString text := by
  induction text with
  | nil => rfl
  | cons byte text ih =>
      rw [List.cons_append, cString, cString, List.takeWhile_cons, List.takeWhile_cons]
      split
      · exact congrArg _ ih
      · rfl

theorem cString_take (text : Bytes) (count : Nat) :
    cString (text.take count) = (cString text).take count := by
  induction text generalizing count with
  | nil => simp [cString]
  | cons byte text ih =>
      cases count with
      | zero => rfl
      | succ count =>
          rw [cString, cString, List.take_succ_cons, List.takeWhile_cons, List.takeWhile_cons]
          split
          · rw [List.take_succ_cons]
            exact congrArg _ (ih count)
          · rfl

namespace PrintBuffer

variable {size : Nat} {buffer : PrintBuffer size} {log : Bytes}

/-- The buffer holds a log, cut off at its size, and `print_pos` is the place behind it. -/
structure Logs (buffer : PrintBuffer size) (log : Bytes) : Prop where
  holds : ∃ rest, buffer.bytes = log.take (size - 1) ++ 0 :: rest
  pos_eq : buffer.pos = (log.take (size - 1)).length
  plain : (0 : UInt8) ∉ log

/-- The string in the buffer is the log as far as the buffer has room for it. -/
theorem Logs.cString_eq (logs : buffer.Logs log) : cString buffer.bytes = log.take (size - 1) := by
  obtain ⟨rest, bytes_eq⟩ := logs.holds
  rw [bytes_eq, cString_append_zero fun member => logs.plain (List.mem_of_mem_take member)]

/-- A message stays in the buffer and comes behind the log. -/
theorem Logs.teePrintf (logs : buffer.Logs log) (positive : 0 < size) (text : Bytes) :
    ∃ buffer' : PrintBuffer size, buffer.teePrintf text =
        some (((((cString text).take (size - 1 - log.length)).length + 1 : Nat) : Int),
          (cString text).take (size - 1 - log.length), buffer') ∧
      buffer'.Logs (log ++ cString text) := by
  obtain ⟨rest, bytes_eq⟩ := logs.holds
  have pos_eq := logs.pos_eq
  rw [List.length_take] at pos_eq
  have pos_le : buffer.pos ≤ size - 1 := by omega
  have count_eq : size - buffer.pos - 1 = size - 1 - log.length := by omega
  have stored_eq : stored (size - buffer.pos) text =
      text.take (size - 1 - log.length) ++ [0] := by
    rw [stored, if_neg (by omega), count_eq]
  have room : buffer.pos + (stored (size - buffer.pos) text).length ≤ size := by
    rw [stored_eq, List.length_append, List.length_take, List.length_singleton]
    omega
  have before : buffer.bytes.take buffer.pos = log.take (size - 1) := by
    rw [bytes_eq, logs.pos_eq, List.take_left]
  set put := buffer.put (stored (size - buffer.pos) text) room with put_eq
  obtain ⟨behind, put_bytes⟩ : ∃ behind, put.bytes = log.take (size - 1) ++
      (text.take (size - 1 - log.length) ++ 0 :: behind) := by
    have put_bytes : put.bytes = buffer.bytes.take buffer.pos ++ stored (size - buffer.pos) text ++
        buffer.bytes.drop (buffer.pos + (stored (size - buffer.pos) text).length) := rfl
    rw [before, stored_eq, List.append_assoc, List.append_assoc, List.singleton_append] at put_bytes
    exact ⟨_, put_bytes⟩
  have put_pos : put.pos = buffer.pos := rfl
  have buf_eq : put.bytes.drop put.pos = text.take (size - 1 - log.length) ++ 0 :: behind := by
    rw [put_bytes, put_pos, logs.pos_eq, List.drop_left]
  have ends : 0 ∈ put.bytes.drop put.pos := by simp [buf_eq]
  have printed_eq : cString (put.bytes.drop put.pos) =
      (cString text).take (size - 1 - log.length) := by
    rw [buf_eq, cString_append, cString_take]
  refine ⟨{ put with pos := put.pos + (cString (put.bytes.drop put.pos)).length }, ?_, ?_, ?_, ?_⟩
  · rw [PrintBuffer.teePrintf, dif_pos room]
    dsimp only
    rw [← put_eq, if_pos ends, Nat.add_sub_cancel, printed_eq]
  · obtain ⟨rest, rest_eq⟩ := exists_cString_append ends
    rw [printed_eq, buf_eq] at rest_eq
    exact ⟨rest, by rw [put_bytes, rest_eq, List.take_append, List.append_assoc]⟩
  · rw [printed_eq, put_pos, logs.pos_eq, List.take_append, List.length_append]
  · rw [List.mem_append, not_or]
    exact ⟨logs.plain, notMem_cString text⟩

end PrintBuffer

/-! ## Commands -/

/-- A command that prints: `TA_REF_RUN_ALL` with one output buffer. -/
def Invocation.Accepted (invocation : Invocation) : Prop :=
  invocation.cmdId = 0 ∧ invocation.paramTypes = teeParamTypes 0 6 0 0

instance (invocation : Invocation) : Decidable invocation.Accepted := by
  unfold Invocation.Accepted
  infer_instance

/-- What a command adds to the log. -/
def Invocation.log (invocation : Invocation) : Bytes :=
  if invocation.Accepted then invocation.texts.flatMap cString else []

section Log

variable {size : Nat} {buffer : PrintBuffer size} {log : Bytes}

end Log

end Optee
end TaRef
