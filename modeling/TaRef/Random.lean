import Mathlib.Algebra.BigOperators.Group.List.Basic
import Mathlib.Data.Stream.Init
import TaRef.Handle
import TaRef.Library.Memory
import TaRef.Storage.Edge

/-!
# Random bytes

`TEE_GenerateRandom` of both platforms.  On Keystone the untrusted host answers each request with a
length and an array of sixteen (or 196) bytes.  The loop copies as many bytes as the answer claims,
from an array that may be shorter, and the caller compares the total with the length it wanted.
-/

namespace TaRef

/-- `ob16_t` or `ob196_t` as it lies on the stack of the enclave: `b` is the memory from the array
on, and the payload is its first 16 or 196 bytes. -/
structure RandomReply where
  ret : Int
  ret_ge : -2 ^ 31 ≤ ret
  ret_lt : ret < 2 ^ 31
  b : Memory

/-- What the host answers to `ocall_getrandom196` and to each `ocall_getrandom16`. -/
structure RandomHost where
  reply196 : RandomReply
  replies16 : Stream' RandomReply

/-- A `memcpy` of `n` bytes out of an array of `size` bytes. -/
structure Copy where
  payload : Memory
  size : Nat
  n : Nat

/-- The bytes that are copied. -/
def Copy.bytes (copy : Copy) : Bytes := copy.payload.read 0 copy.n

/-- Return value of `ocall_getrandom`, with the memory after it and the copies that it has made. -/
structure GetRandom where
  retval : Int
  memory : Memory
  copies : List Copy

/-- The loop of `ocall_getrandom`.  The sum in `retval` wraps, as the compiler makes it. -/
def getrandomLoop (memory : Memory) (buf len : Nat) (retval : Int) (replies : Stream' RandomReply) :
    GetRandom :=
  if _ : len > 0 then
    let rret := replies.head
    if _ : rret.ret > 0 then
      let n := if rret.ret ≤ len then rret.ret.toNat else len
      let copy : Copy := { payload := rret.b, size := 16, n }
      let rest := getrandomLoop (memory.write buf copy.bytes) (buf + n) (len - n)
        (wrapInt (retval + n)) replies.tail
      { rest with copies := copy :: rest.copies }
    else if rret.ret < 0 then { retval := rret.ret, memory, copies := [] }
    else { retval, memory, copies := [] }
  else { retval, memory, copies := [] }
termination_by len
decreasing_by
  have positive : replies.head.ret > 0 := ‹_›
  split <;> omega

/-- `ocall_getrandom`; the comparison of an `int` with a `size_t` takes the former modulo
`2 ^ 64`. -/
def ocallGetrandom (host : RandomHost) (memory : Memory) (buf len : Nat) : GetRandom :=
  if len = 196 then
    let rret196 := host.reply196
    if rret196.ret % 2 ^ 64 = len then
      let copy : Copy := { payload := rret196.b, size := 196, n := len }
      { retval := rret196.ret, memory := memory.write buf copy.bytes, copies := [copy] }
    else { retval := rret196.ret, memory, copies := [] }
  else getrandomLoop memory buf len 0 host.replies16

/-- `TEE_GenerateRandom` on Keystone; the comparison of an `int` with a `uint32_t` takes the former
modulo `2 ^ 32`. -/
def Keystone.teeGenerateRandom (host : RandomHost) (memory : Memory) (randomBuffer : Nat)
    (randomBufferLen : UInt32) : Exit Unit × GetRandom :=
  let call := ocallGetrandom host memory randomBuffer randomBufferLen.toNat
  if call.retval % 2 ^ 32 ≠ randomBufferLen.toNat then (.panicked, call) else (.returned (), call)

/-- What `sgx_read_rand` returns, zero for success, and the random bytes it stores then. -/
structure ReadRand where
  status : UInt32
  random : Memory

/-- `TEE_GenerateRandom` on SGX. -/
def Sgx.teeGenerateRandom (call : ReadRand) (memory : Memory) (randomBuffer : Nat)
    (randomBufferLen : UInt32) : Exit Unit × Memory :=
  (.returned (),
    if call.status = 0 then
      memory.write randomBuffer (call.random.read 0 randomBufferLen.toNat)
    else memory)

/-! ## What the loop does -/

/-- The replies before one of them are positive. -/
def PositiveUntil (replies : Stream' RandomReply) (count : Nat) : Prop :=
  ∀ index < count, 0 < (replies.get index).ret

/-- What some replies claim together. -/
def claimed (replies : Stream' RandomReply) : Nat → Int
  | 0 => 0
  | count + 1 => claimed replies count + (replies.get count).ret

theorem claimed_succ (replies : Stream' RandomReply) (count : Nat) :
    claimed replies (count + 1) = replies.head.ret + claimed replies.tail count := by
  induction count with
  | zero => exact Int.add_comm 0 _
  | succ count ih =>
      rw [claimed, ih, claimed, Int.add_assoc]
      rfl

theorem claimed_le {replies : Stream' RandomReply} {count other : Nat}
    (positive : PositiveUntil replies other) (le : count ≤ other) :
    claimed replies count ≤ claimed replies other := by
  induction other with
  | zero =>
      obtain rfl := Nat.le_zero.mp le
      exact Int.le_refl _
  | succ other ih =>
      rcases Nat.le_succ_iff.mp le with earlier | rfl
      · have grows := positive other (Nat.lt_succ_self other)
        have rest := ih (fun index before => positive index (Nat.lt_succ_of_lt before)) earlier
        rw [claimed]
        omega
      · exact Int.le_refl _

/-- The copy that the loop makes out of a reply. -/
def copyOf (replies : Stream' RandomReply) (len index : Nat) : Copy where
  payload := (replies.get index).b
  size := 16
  n := (min (replies.get index).ret (len - claimed replies index)).toNat

/-- Where a loop stops. -/
inductive Stop (len : Nat) (start : Int) (replies : Stream' RandomReply) (count : Nat) (total : Nat)
    (retval : Int) : Prop
  | filled (enough : len ≤ claimed replies count) (total_eq : total = len)
      (retval_eq : retval = wrapInt (start + len))
  | ended (short : claimed replies count < len) (total_eq : total = claimed replies count)
      (zero : (replies.get count).ret = 0) (retval_eq : retval = wrapInt (start + total))
  | failed (short : claimed replies count < len) (total_eq : total = claimed replies count)
      (negative : (replies.get count).ret < 0) (retval_eq : retval = (replies.get count).ret)

/-- What the loop does: it copies out of some positive replies, and stops when the buffer is full or
a reply is not positive. -/
structure LoopResult (memory : Memory) (buf len : Nat) (start : Int) (replies : Stream' RandomReply)
    (count : Nat) (result : GetRandom) : Prop where
  positive : PositiveUntil replies count
  short : ∀ index < count, claimed replies index < len
  copies : result.copies = (List.range count).map (copyOf replies len)
  memory_eq : result.memory = memory.write buf (result.copies.map Copy.bytes).flatten
  stop : Stop len start replies count (result.copies.map Copy.n).sum result.retval

theorem getrandomLoop_zero (memory : Memory) (buf : Nat) (retval : Int)
    (replies : Stream' RandomReply) :
    getrandomLoop memory buf 0 retval replies = { retval, memory, copies := [] } := by
  rw [getrandomLoop]
  exact dif_neg (Nat.lt_irrefl 0)

/-- A positive reply is copied out of. -/
theorem getrandomLoop_of_pos {memory : Memory} {buf len : Nat} {retval : Int}
    {replies : Stream' RandomReply} (len_pos : 0 < len) (positive : 0 < replies.head.ret) :
    getrandomLoop memory buf len retval replies =
      let copy := copyOf replies len 0
      let rest := getrandomLoop (memory.write buf copy.bytes) (buf + copy.n) (len - copy.n)
        (wrapInt (retval + copy.n)) replies.tail
      { rest with copies := copy :: rest.copies } := by
  have n_eq : (if replies.head.ret ≤ len then replies.head.ret.toNat else len) =
      (copyOf replies len 0).n := by
    simp only [copyOf, claimed, Stream'.head] at positive ⊢
    split <;> omega
  have copy_eq : ({ payload := replies.head.b, size := 16, n := (copyOf replies len 0).n } : Copy) =
      copyOf replies len 0 := rfl
  rw [getrandomLoop, dif_pos len_pos, dif_pos positive, n_eq]
  rfl

/-- A reply that is not positive ends the loop. -/
theorem getrandomLoop_of_nonpos {memory : Memory} {buf len : Nat} {retval : Int}
    {replies : Stream' RandomReply} (len_pos : 0 < len) (nonpositive : ¬ 0 < replies.head.ret) :
    getrandomLoop memory buf len retval replies =
      { retval := if replies.head.ret < 0 then replies.head.ret else retval
        memory, copies := [] } := by
  rw [getrandomLoop, dif_pos len_pos, dif_neg nonpositive]
  split <;> rfl

theorem length_bytes (copy : Copy) : copy.bytes.length = copy.n := Memory.length_read ..

/-- The copies after the first are those of the rest of the replies. -/
theorem copyOf_succ {replies : Stream' RandomReply} {len : Nat} (positive : 0 < replies.head.ret)
    (less : replies.head.ret < len) (index : Nat) :
    copyOf replies len (index + 1) =
      copyOf replies.tail (len - (copyOf replies len 0).n) index := by
  have first : (copyOf replies len 0).n = replies.head.ret.toNat := by
    simp only [copyOf, claimed, Stream'.head] at positive less ⊢
    omega
  have left : ((len - replies.head.ret.toNat : Nat) : Int) = len - replies.head.ret := by omega
  rw [first, copyOf, copyOf, claimed_succ, left, Int.sub_sub]
  rfl

/-- Nothing is wanted, or the first reply is not positive. -/
theorem loopResult_of_stop {memory : Memory} {buf len : Nat} {start : Int}
    (wrapped : wrapInt start = start) {replies : Stream' RandomReply}
    (stops : len = 0 ∨ ¬ 0 < replies.head.ret) :
    LoopResult memory buf len start replies 0 (getrandomLoop memory buf len start replies) := by
  have nothing : ∀ index, ¬ index < 0 := Nat.not_lt_zero
  rcases Nat.eq_zero_or_pos len with rfl | len_pos
  · rw [getrandomLoop_zero]
    exact
      { positive := fun index early => absurd early (nothing index)
        short := fun index early => absurd early (nothing index)
        copies := rfl
        memory_eq := (Memory.write_nil memory buf).symm
        stop := .filled (Int.le_refl _) rfl (by simpa using wrapped.symm) }
  · have nonpositive := stops.resolve_left (Nat.pos_iff_ne_zero.mp len_pos)
    have short : claimed replies 0 < len := by simpa [claimed] using len_pos
    rw [getrandomLoop_of_nonpos len_pos nonpositive]
    refine
      { positive := fun index early => absurd early (nothing index)
        short := fun index early => absurd early (nothing index)
        copies := rfl
        memory_eq := (Memory.write_nil memory buf).symm
        stop := ?_ }
    by_cases negative : replies.head.ret < 0
    · exact .failed short rfl negative (if_pos negative)
    · have zero : (replies.get 0).ret = 0 := by
        simp only [Stream'.head] at nonpositive negative
        omega
      exact .ended short rfl zero ((if_neg negative).trans (by simpa using wrapped.symm))

/-- The first reply claims at least as much as is wanted. -/
theorem loopResult_of_fill {memory : Memory} {buf len : Nat} {start : Int}
    {replies : Stream' RandomReply}
    (len_pos : 0 < len) (fills : len ≤ replies.head.ret) :
    LoopResult memory buf len start replies 1 (getrandomLoop memory buf len start replies) := by
  have positive : 0 < replies.head.ret := by omega
  have all : (copyOf replies len 0).n = len := by
    simp only [copyOf, claimed, Stream'.head] at fills ⊢
    omega
  rw [getrandomLoop_of_pos len_pos positive]
  dsimp only
  rw [all, Nat.sub_self, getrandomLoop_zero]
  refine
    { positive := ?_
      short := ?_
      copies := rfl
      memory_eq := by simp
      stop := .filled ?_ (by simp [all]) rfl }
  · intro index early
    obtain rfl := Nat.lt_one_iff.mp early
    exact positive
  · intro index early
    obtain rfl := Nat.lt_one_iff.mp early
    simpa [claimed] using len_pos
  · rw [claimed_succ, claimed, Int.add_zero]
    exact fills

/-- A stop after the first reply is a stop one reply later. -/
theorem Stop.cons {len rest first count total : Nat} {start retval : Int}
    {replies : Stream' RandomReply} (left : (rest : Int) = len - replies.head.ret)
    (first_eq : (first : Int) = replies.head.ret)
    (stop : Stop rest (wrapInt (start + first)) replies.tail count total retval) :
    Stop len start replies (count + 1) (first + total) retval := by
  have claimed_eq := claimed_succ replies count
  cases stop with
  | filled enough total_eq retval_eq =>
      refine .filled (by omega) (by omega) ?_
      rw [retval_eq, wrapInt_wrapInt_add]
      congr 1
      omega
  | ended short total_eq zero retval_eq =>
      refine .ended (by omega) (by omega) zero ?_
      rw [retval_eq, wrapInt_wrapInt_add]
      congr 1
      omega
  | failed short total_eq negative retval_eq =>
      exact .failed (by omega) (by omega) negative retval_eq

/-- The first reply leaves something to the others. -/
theorem LoopResult.cons {memory : Memory} {buf len count : Nat} {start : Int}
    {replies : Stream' RandomReply} (positive : 0 < replies.head.ret)
    (less : replies.head.ret < len)
    (rest : LoopResult (memory.write buf (copyOf replies len 0).bytes)
      (buf + (copyOf replies len 0).n) (len - (copyOf replies len 0).n)
      (wrapInt (start + (copyOf replies len 0).n)) replies.tail count
      (getrandomLoop (memory.write buf (copyOf replies len 0).bytes)
        (buf + (copyOf replies len 0).n) (len - (copyOf replies len 0).n)
        (wrapInt (start + (copyOf replies len 0).n)) replies.tail)) :
    LoopResult memory buf len start replies (count + 1)
      (getrandomLoop memory buf len start replies) := by
  have first : ((copyOf replies len 0).n : Int) = replies.head.ret := by
    simp only [copyOf, claimed, Stream'.head] at positive less ⊢
    omega
  have left : ((len - (copyOf replies len 0).n : Nat) : Int) = len - replies.head.ret := by omega
  obtain ⟨positive', short', copies', memory', stop'⟩ := rest
  rw [getrandomLoop_of_pos (by omega) positive]
  refine
    { positive := ?_
      short := ?_
      copies := ?_
      memory_eq := ?_
      stop := ?_ }
  · intro index early
    cases index with
    | zero => exact positive
    | succ index => exact positive' index (Nat.lt_of_succ_lt_succ early)
  · intro index early
    cases index with
    | zero =>
        rw [claimed]
        omega
    | succ index =>
        have later := short' index (Nat.lt_of_succ_lt_succ early)
        rw [left] at later
        rw [claimed_succ]
        omega
  · rw [List.range_succ_eq_map, List.map_cons, List.map_map]
    refine congrArg _ (copies'.trans (List.map_congr_left fun index _ => ?_))
    exact (copyOf_succ positive less index).symm
  · rw [List.map_cons, List.flatten_cons, ← Memory.write_append, length_bytes]
    exact memory'
  · rw [List.map_cons, List.sum_cons]
    exact stop'.cons left first

/-- What the loop does, for any replies. -/
theorem getrandomLoop_result (memory : Memory) (buf len : Nat) {start : Int}
    (wrapped : wrapInt start = start) (replies : Stream' RandomReply) :
    ∃ count, LoopResult memory buf len start replies count
      (getrandomLoop memory buf len start replies) := by
  induction len using Nat.strong_induction_on generalizing memory buf start replies with
  | _ len ih =>
      by_cases stops : len = 0 ∨ ¬ 0 < replies.head.ret
      · exact ⟨0, loopResult_of_stop wrapped stops⟩
      rw [not_or, not_not] at stops
      obtain ⟨len_ne, positive⟩ := stops
      by_cases fills : len ≤ replies.head.ret
      · exact ⟨1, loopResult_of_fill (Nat.pos_of_ne_zero len_ne) fills⟩
      · have first : (copyOf replies len 0).n = replies.head.ret.toNat := by
          simp only [copyOf, claimed, Stream'.head] at positive fills ⊢
          omega
        obtain ⟨count, rest⟩ := ih (len - (copyOf replies len 0).n) (by omega)
          (memory.write buf (copyOf replies len 0).bytes) (buf + (copyOf replies len 0).n)
          (Int.bmod_bmod : wrapInt (wrapInt (start + (copyOf replies len 0).n)) = _) replies.tail
        exact ⟨count + 1, rest.cons positive (Int.lt_of_not_ge fills)⟩

/-! ## Complete random bytes -/

/-- The arrays that the host fills for a length, in order. -/
def RandomHost.payloads (host : RandomHost) (len : Nat) : Stream' Memory :=
  if len = 196 then Stream'.const host.reply196.b else host.replies16.map RandomReply.b

/-- The buffer holds leading segments of the arrays in order, and they fill it. -/
structure Assembled (call : GetRandom) (payloads : Stream' Memory) (buf len : Nat) : Prop where
  ordered : call.copies.map Copy.payload = payloads.take call.copies.length
  inside : ∀ copy ∈ call.copies, copy.n ≤ copy.size
  total : (call.copies.map Copy.n).sum = len
  filled : call.memory.read buf len = (call.copies.map Copy.bytes).flatten

/-- Where a platform takes random bytes from. -/
inductive RandomSource
  | keystone (host : RandomHost)
  | sgx (call : ReadRand)

/-- When `TEE_GenerateRandom` returns, the buffer holds what the source delivered for it. -/
def RandomSource.Complete (memory : Memory) (randomBuffer : Nat) (randomBufferLen : UInt32) :
    RandomSource → Prop
  | keystone host =>
      (Keystone.teeGenerateRandom host memory randomBuffer randomBufferLen).1 = .returned () →
        Assembled (Keystone.teeGenerateRandom host memory randomBuffer randomBufferLen).2
          (host.payloads randomBufferLen.toNat) randomBuffer randomBufferLen.toNat
  | sgx call =>
      (Sgx.teeGenerateRandom call memory randomBuffer randomBufferLen).1 = .returned () →
        call.status = 0 ∧
          (Sgx.teeGenerateRandom call memory randomBuffer randomBufferLen).2.read randomBuffer
            randomBufferLen.toNat = call.random.read 0 randomBufferLen.toNat

/-- The replies that a length takes are honest enough: if they fill it, none of them is read past
its array, and before they do, none of them is the error that looks like the length. -/
structure Honest (replies : Stream' RandomReply) (len : Nat) : Prop where
  inside : ∀ count, PositiveUntil replies count → len ≤ claimed replies count →
    ∀ index < count, claimed replies index < len →
      min (replies.get index).ret (len - claimed replies index) ≤ 16
  errors : ∀ count, PositiveUntil replies count → claimed replies count < len →
    (replies.get count).ret ≠ len - 2 ^ 32

/-- The condition on a source. -/
def RandomSource.Sound (randomBufferLen : UInt32) : RandomSource → Prop
  | keystone host => randomBufferLen.toNat = 196 ∨ Honest host.replies16 randomBufferLen.toNat
  | sgx call => call.status = 0

namespace LoopResult

variable {memory : Memory} {buf len count : Nat} {replies : Stream' RandomReply}
  {result : GetRandom}

/-- A reply that is not positive comes at the earliest where the loop stops. -/
theorem le_of_nonpos (loop : LoopResult memory buf len 0 replies count result) {other : Nat}
    (nonpositive : ¬ 0 < (replies.get other).ret) : count ≤ other := by
  by_contra before
  exact nonpositive (loop.positive other (Nat.lt_of_not_le before))

/-- The buffer is full exactly when the replies claim the length. -/
theorem full_iff (loop : LoopResult memory buf len 0 replies count result) :
    (result.copies.map Copy.n).sum = len ↔ len ≤ claimed replies count := by
  cases loop.stop with
  | filled enough total_eq _ => exact iff_of_true total_eq enough
  | ended short total_eq _ _ => omega
  | failed short total_eq _ _ => omega

/-- The loop stops at a reply that is not positive, if the replies before it are positive and leave
it something. -/
theorem eq_of_nonpos (loop : LoopResult memory buf len 0 replies count result) {other : Nat}
    (positive : PositiveUntil replies other) (short : claimed replies other < len)
    (nonpositive : ¬ 0 < (replies.get other).ret) : count = other := by
  refine Nat.le_antisymm (loop.le_of_nonpos nonpositive) (Nat.le_of_not_lt fun before => ?_)
  have grows := claimed_le positive (Nat.le_of_lt before)
  have stopped := positive count before
  cases loop.stop with
  | filled enough _ _ => omega
  | ended _ _ zero _ => omega
  | failed _ _ negative _ => omega

/-- Positive replies that claim the length fill the buffer. -/
theorem filled_of_claimed (loop : LoopResult memory buf len 0 replies count result) {other : Nat}
    (positive : PositiveUntil replies other) (enough : len ≤ claimed replies other) :
    (result.copies.map Copy.n).sum = len ∧ result.retval = wrapInt len := by
  have later : ¬ 0 < (replies.get count).ret → ¬ claimed replies count < len := by
    intro stopped short
    have le : other ≤ count := by
      by_contra before
      exact stopped (positive count (Nat.lt_of_not_le before))
    have grows := claimed_le loop.positive le
    omega
  cases loop.stop with
  | filled _ total_eq retval_eq => exact ⟨total_eq, by rw [retval_eq, Int.zero_add]⟩
  | ended short _ zero _ => exact absurd short (later (by omega))
  | failed short _ negative _ => exact absurd short (later (by omega))

/-- What is returned passes for the length exactly when the buffer is full or the last reply is the
error that looks like the length. -/
theorem passes_iff (loop : LoopResult memory buf len 0 replies count result)
    (len_lt : len < 2 ^ 32) :
    result.retval % 2 ^ 32 = len ↔
      (result.copies.map Copy.n).sum = len ∨
        claimed replies count < len ∧ (replies.get count).ret = len - 2 ^ 32 := by
  have reduced : ∀ value : Int, wrapInt value % 2 ^ 32 = value % 2 ^ 32 := fun value => by
    unfold wrapInt
    exact Int.bmod_emod
  have ge := (replies.get count).ret_ge
  have lt := (replies.get count).ret_lt
  cases loop.stop with
  | filled enough total_eq retval_eq =>
      rw [retval_eq, reduced]
      omega
  | ended short total_eq zero retval_eq =>
      rw [retval_eq, reduced]
      omega
  | failed short total_eq negative retval_eq =>
      rw [retval_eq]
      omega

/-- A full buffer holds the copies. -/
theorem filled (loop : LoopResult memory buf len 0 replies count result)
    (total : (result.copies.map Copy.n).sum = len) :
    result.memory.read buf len = (result.copies.map Copy.bytes).flatten := by
  have length : ((result.copies.map Copy.bytes).flatten).length = len := by
    rw [List.length_flatten, List.map_map, ← total]
    exact congrArg _ (List.map_congr_left fun copy _ => length_bytes copy)
  rw [loop.memory_eq]
  have held := memory.read_write buf (result.copies.map Copy.bytes).flatten
  rwa [length] at held

/-- The copies are out of the first replies, in order. -/
theorem ordered (loop : LoopResult memory buf len 0 replies count result) :
    result.copies.map Copy.payload = (replies.map RandomReply.b).take result.copies.length := by
  have taken : ∀ count, (List.range count).map (fun index => (replies.get index).b) =
      (replies.map RandomReply.b).take count := by
    intro count
    apply List.ext_getElem
    · simp
    · intro index _ _
      simp [Stream'.get_map]
  rw [loop.copies, List.map_map, List.length_map, List.length_range]
  exact taken count

end LoopResult

/-- `TEE_GenerateRandom` returns when the result passes for the length. -/
theorem Keystone.returns_iff (host : RandomHost) (memory : Memory) (randomBuffer : Nat)
    (randomBufferLen : UInt32) :
    (Keystone.teeGenerateRandom host memory randomBuffer randomBufferLen).1 = .returned () ↔
      (ocallGetrandom host memory randomBuffer randomBufferLen.toNat).retval % 2 ^ 32 =
        randomBufferLen.toNat := by
  unfold Keystone.teeGenerateRandom
  dsimp only
  split
  · rename_i differs
    exact ⟨fun exit => (by cases exit), fun same => absurd same differs⟩
  · rename_i same
    exact ⟨fun _ => not_not.mp same, fun _ => rfl⟩

theorem Keystone.teeGenerateRandom_snd (host : RandomHost) (memory : Memory) (randomBuffer : Nat)
    (randomBufferLen : UInt32) :
    (Keystone.teeGenerateRandom host memory randomBuffer randomBufferLen).2 =
      ocallGetrandom host memory randomBuffer randomBufferLen.toNat := by
  unfold Keystone.teeGenerateRandom
  dsimp only
  split <;> rfl

/-- The one request for 196 bytes is complete or panics. -/
theorem RandomHost.assembled_of_seed (host : RandomHost) (memory : Memory) (buf : Nat)
    (passes : (ocallGetrandom host memory buf 196).retval % 2 ^ 32 = (196 : Nat)) :
    Assembled (ocallGetrandom host memory buf 196) (host.payloads 196) buf 196 := by
  have ge := host.reply196.ret_ge
  have lt := host.reply196.ret_lt
  by_cases complete : host.reply196.ret % 2 ^ 64 = (196 : Nat)
  · have call_eq : ocallGetrandom host memory buf 196 =
        { retval := host.reply196.ret
          memory := memory.write buf (host.reply196.b.read 0 196)
          copies := [{ payload := host.reply196.b, size := 196, n := 196 }] } := by
      simp only [ocallGetrandom, if_true, if_pos complete]
      rfl
    rw [call_eq]
    refine ⟨rfl, ?_, rfl, ?_⟩
    · intro copy member
      rw [List.mem_singleton.mp member]
    · have held := memory.read_write buf (host.reply196.b.read 0 196)
      rw [Memory.length_read] at held
      exact held.trans (List.append_nil _).symm
  · have call_eq : ocallGetrandom host memory buf 196 =
        { retval := host.reply196.ret, memory, copies := [] } := by
      simp only [ocallGetrandom, if_true, if_neg complete]
    rw [call_eq] at passes
    dsimp only at passes
    omega

/-- A run of the loop that passes is assembled from the payloads exactly when the replies are
honest. -/
theorem LoopResult.assembled_iff {memory : Memory} {buf len count : Nat}
    {replies : Stream' RandomReply} {result : GetRandom}
    (loop : LoopResult memory buf len 0 replies count result) (len_lt : len < 2 ^ 32) :
    (result.retval % 2 ^ 32 = len → Assembled result (replies.map RandomReply.b) buf len) ↔
      Honest replies len := by
  rw [loop.passes_iff len_lt]
  constructor
  · intro assembled
    constructor
    · intro other positive enough index before wanted
      have total := (loop.filled_of_claimed positive enough).1
      have within : index < count := by
        by_contra late
        have le : claimed replies count ≤ claimed replies index :=
          claimed_le (fun earlier lt => positive earlier (Nat.lt_trans lt before))
            (Nat.le_of_not_lt late)
        have full := loop.full_iff.mp total
        omega
      have member : copyOf replies len index ∈ result.copies := by
        rw [loop.copies]
        exact List.mem_map_of_mem (List.mem_range.mpr within)
      have inside := (assembled (.inl total)).inside _ member
      simp only [copyOf] at inside
      omega
    · intro other positive short error
      have negative : ¬ 0 < (replies.get other).ret := by
        have ge := (replies.get other).ret_ge
        omega
      obtain rfl := loop.eq_of_nonpos positive short negative
      have full := loop.full_iff.mp (assembled (.inr ⟨short, error⟩)).total
      omega
  · rintro honest (total | ⟨short, error⟩)
    · refine ⟨loop.ordered, ?_, total, loop.filled total⟩
      intro copy member
      rw [loop.copies] at member
      obtain ⟨index, early, rfl⟩ := List.mem_map.mp member
      have within := List.mem_range.mp early
      have limit := honest.inside count loop.positive (loop.full_iff.mp total) index within
        (loop.short index within)
      simp only [copyOf]
      omega
    · exact absurd error (honest.errors count loop.positive short)

/-- For other lengths the loop is complete or panics exactly when the replies are honest. -/
theorem RandomHost.complete_iff (host : RandomHost) (memory : Memory) (randomBuffer : Nat)
    {randomBufferLen : UInt32} (long : randomBufferLen.toNat ≠ 196) :
    (RandomSource.keystone host).Complete memory randomBuffer randomBufferLen ↔
      Honest host.replies16 randomBufferLen.toNat := by
  have payloads_eq : host.payloads randomBufferLen.toNat = host.replies16.map RandomReply.b :=
    if_neg long
  have call_eq : ocallGetrandom host memory randomBuffer randomBufferLen.toNat =
      getrandomLoop memory randomBuffer randomBufferLen.toNat 0 host.replies16 := if_neg long
  obtain ⟨count, loop⟩ := getrandomLoop_result memory randomBuffer randomBufferLen.toNat
    wrapInt_zero host.replies16
  rw [RandomSource.Complete, Keystone.returns_iff, Keystone.teeGenerateRandom_snd, payloads_eq,
    call_eq, loop.assembled_iff randomBufferLen.toNat_lt]

/-- The random bytes are complete and come from the source exactly when, on Keystone, 196 bytes are
wanted or the replies are honest, and on SGX, the instruction reports success. -/
theorem random_complete_iff (source : RandomSource) (memory : Memory) (randomBuffer : Nat)
    (randomBufferLen : UInt32) :
    source.Complete memory randomBuffer randomBufferLen ↔ source.Sound randomBufferLen := by
  cases source with
  | keystone host =>
      by_cases seed : randomBufferLen.toNat = 196
      · refine ⟨fun _ => .inl seed, fun _ returned => ?_⟩
        rw [Keystone.returns_iff, seed] at returned
        rw [Keystone.teeGenerateRandom_snd, seed]
        exact host.assembled_of_seed memory randomBuffer returned
      · rw [host.complete_iff memory randomBuffer seed, RandomSource.Sound, or_iff_right seed]
  | sgx call =>
      refine ⟨fun complete => (complete rfl).1, fun succeeds _ => ⟨succeeds, ?_⟩⟩
      have stored : (Sgx.teeGenerateRandom call memory randomBuffer randomBufferLen).2 =
          memory.write randomBuffer (call.random.read 0 randomBufferLen.toNat) := if_pos succeeds
      have held := memory.read_write randomBuffer (call.random.read 0 randomBufferLen.toNat)
      rw [Memory.length_read] at held
      rw [stored, held]

/-- A host that always gives the same answer, with zeros on the stack. -/
def RandomHost.constant (ret : Int) (ret_ge : -2 ^ 31 ≤ ret) (ret_lt : ret < 2 ^ 31) :
    RandomHost where
  reply196 := { ret, ret_ge, ret_lt, b := fun _ => 0 }
  replies16 := .const { ret, ret_ge, ret_lt, b := fun _ => 0 }

/-- A reply that claims 32 bytes is read past its sixteen, a host error of -1 passes for 4294967295
bytes, and a failure of the instruction is not noticed. -/
theorem random_incomplete :
    ¬ (RandomSource.keystone (.constant 32 (by decide) (by decide))).Complete (fun _ => 0) 0 32 ∧
      ¬ (RandomSource.keystone (.constant (-1) (by decide) (by decide))).Complete (fun _ => 0) 0
        0xFFFFFFFF ∧
      ¬ (RandomSource.sgx { status := 1, random := fun _ => 0 }).Complete (fun _ => 0) 0 32 := by
  refine ⟨fun complete => ?_, fun complete => ?_, fun complete => ?_⟩
  · rw [RandomHost.complete_iff _ _ _ (by decide)] at complete
    have inside := complete.inside 1 (fun _ _ => (by decide : (0 : Int) < 32)) (by decide) 0
      (by decide) (by decide)
    exact absurd inside (by decide)
  · rw [RandomHost.complete_iff _ _ _ (by decide)] at complete
    exact complete.errors 0 (fun _ early => absurd early (Nat.not_lt_zero _)) (by decide)
      (by decide)
  · exact absurd (complete rfl).1 (by decide)

end TaRef
