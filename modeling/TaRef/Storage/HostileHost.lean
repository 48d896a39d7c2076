import Mathlib.Algebra.BigOperators.Group.Finset.Basic
import Mathlib.Algebra.Order.BigOperators.Group.Finset
import TaRef.Storage.Keystone

/-!
# The transfer loops against any host

The Keystone edge calls, answered by a host that need not be a POSIX file system: the reply to each
ocall is any `int`, or any `ob256_t`.  The loops trust that reply as a number of bytes.  They stay
inside their buffers exactly when the replies they accept never add up to more than was asked for.
-/

namespace TaRef

/-- A value of type `int`. -/
abbrev CInt := { value : Int // -2 ^ 31 ≤ value ∧ value < 2 ^ 31 }

/-- An `ob256_t` as it comes over the edge. -/
abbrev ReadReply :=
  { reply : Ob256 // (-2 ^ 31 ≤ reply.ret ∧ reply.ret < 2 ^ 31) ∧ reply.b.length = 256 }

/-- The untrusted side of the two ocalls that move the data of a file.  A chunk is handed over as a
buffer, the offset of the pointer into it and a length. -/
structure Untrusted (σ : Type*) where
  ocallWriteFile256 : σ → Int → Bytes → Int → Nat → Int × σ
  ocallReadFile256 : σ → Int → Nat → Ob256 × σ

/-- What `memcpy` does to a buffer of the enclave: it gets the offset of the pointer into the
buffer, the array to copy from and the number of bytes. -/
structure Destination (μ : Type*) where
  memcpy : μ → Int → Bytes → Nat → μ

variable {σ τ μ : Type*}

/-- The buffer itself. -/
def Destination.plain : Destination Bytes where
  memcpy buf offset source length :=
    buf.take offset.toNat ++ overwrite (buf.drop offset.toNat) 0 (source.take length)

namespace Untrusted

variable (side : Untrusted σ) (destination : Destination μ)

/-- `ocall_write_file`, with the pointer `buf + offset`. -/
def ocallWriteFile (host : σ) (fd : Int) (buf : Bytes) (offset : Int) (count : Nat) : Int × σ :=
  let count := if count > 256 then 256 else count
  side.ocallWriteFile256 host fd buf offset count

/-- `ocall_read_file`, with the pointer `buf + offset`. -/
def ocallReadFile (host : σ) (fd : Int) (buf : μ) (offset : Int) (count : Nat) : Int × σ × μ :=
  let (r, host') := side.ocallReadFile256 host fd (count % 2 ^ 32)
  if r.ret > 0 then (r.ret, host', destination.memcpy buf offset r.b r.ret.toNat)
  else (r.ret, host', buf)

/-- The transfer of `ocall_write_file_full`. -/
def writeTransfer (fd : Int) (buf : Bytes) (host : σ) (offset : Int) (left : Nat) : Int × σ :=
  side.ocallWriteFile host fd buf offset left

/-- The transfer of `ocall_read_file_full`. -/
def readTransfer (fd : Int) (state : σ × μ) (offset : Int) (left : Nat) : Int × σ × μ :=
  side.ocallReadFile destination state.1 fd state.2 offset left

/-- `ocall_write_file_full`, cut off after `fuel` ocalls. -/
def ocallWriteFileFull (fuel : Nat) (host : σ) (fd : Int) (buf : Bytes) (count : Nat) :
    Option (Int × σ) :=
  transferLoop (side.writeTransfer fd buf) count fuel 0 host

/-- `ocall_read_file_full`, cut off after `fuel` ocalls. -/
def ocallReadFileFull (fuel : Nat) (host : σ) (fd : Int) (buf : Bytes) (count : Nat) :
    Option (Int × σ × Bytes) :=
  transferLoop (side.readTransfer .plain fd) count fuel 0 (host, buf)

/-- A POSIX file system. -/
def posix : Untrusted Host where
  ocallWriteFile256 host fd buf offset count :=
    Keyedge.ocallWriteFile256 host fd (buf.drop offset.toNat) count
  ocallReadFile256 := Keyedge.ocallReadFile256

theorem posix_ocallWriteFileFull (host : Host) (fd : Int) (buf : Bytes) (count : Nat) :
    posix.ocallWriteFileFull (count + 1) host fd buf count =
      Keyedge.ocallWriteFileFull host fd buf count := rfl

theorem posix_ocallReadFileFull (host : Host) (fd : Int) (buf : Bytes) (count : Nat) :
    posix.ocallReadFileFull (count + 1) host fd buf count =
      Keyedge.ocallReadFileFull host fd buf count := by
  have transfers : posix.readTransfer .plain fd = fun state offset left =>
      let read := Keyedge.ocallReadFile state.1 fd (state.2.drop offset.toNat) left
      (read.1, read.2.1, state.2.take offset.toNat ++ read.2.2) := by
    funext state offset left
    rcases reply : Keyedge.ocallReadFile256 state.1 fd (left % 2 ^ 32) with ⟨r, host'⟩
    have same : posix.ocallReadFile256 state.1 fd (left % 2 ^ 32) = (r, host') := reply
    simp only [readTransfer, ocallReadFile, Keyedge.ocallReadFile, reply, same, Destination.plain]
    split
    · rfl
    · rw [List.take_append_drop]
  rw [ocallReadFileFull, transfers]
  rfl

end Untrusted

/-- The replies that a host has in store. -/
structure Replies where
  writes : Stream' CInt
  reads : Stream' ReadReply

/-- A host that replies whatever it has in store. -/
def Untrusted.hostile : Untrusted Replies where
  ocallWriteFile256 replies _ _ _ _ :=
    (replies.writes.head, { replies with writes := replies.writes.tail })
  ocallReadFile256 replies _ _ :=
    (replies.reads.head, { replies with reads := replies.reads.tail })

/-! ## What leaves and enters the enclave -/

/-- A part of a buffer. -/
structure Extent where
  offset : Int
  length : Nat
  deriving DecidableEq, Repr

/-- The part lies inside a buffer of `count` bytes. -/
def Extent.Inside (extent : Extent) (count : Nat) : Prop :=
  0 ≤ extent.offset ∧ extent.offset + extent.length ≤ count

/-- A host that keeps a record of the parts of the buffer that it is handed. -/
def Untrusted.watching (side : Untrusted σ) : Untrusted (σ × List Extent) where
  ocallWriteFile256 state fd buf offset count :=
    let (n, host) := side.ocallWriteFile256 state.1 fd buf offset count
    (n, host, state.2 ++ [{ offset, length := count }])
  ocallReadFile256 state fd count :=
    let (r, host) := side.ocallReadFile256 state.1 fd count
    (r, host, state.2)

/-- One `memcpy`: the size of the array that it reads, and the part of the buffer that it writes. -/
structure Memcpy where
  source : Nat
  target : Extent
  deriving DecidableEq, Repr

/-- The copy reads inside its source and writes inside a buffer of `count` bytes. -/
def Memcpy.Inside (copy : Memcpy) (count : Nat) : Prop :=
  copy.target.length ≤ copy.source ∧ copy.target.Inside count

/-- A buffer with a record of the copies made into it. -/
def Destination.watching (destination : Destination μ) : Destination (μ × List Memcpy) where
  memcpy state offset source length :=
    (destination.memcpy state.1 offset source length,
      state.2 ++ [{ source := source.length, target := { offset, length } }])

/-! ## The turns of a loop -/

/-- One turn of a transfer loop: the offset of its pointer, the length it computes for the bytes
left, and what the host returned. -/
structure Turn where
  offset : Int
  left : Nat
  reply : Int
  deriving DecidableEq, Repr

/-- A transfer that keeps a record of its turns. -/
def logged (transfer : σ → Int → Nat → Int × σ) (state : σ × List Turn) (offset : Int)
    (left : Nat) : Int × σ × List Turn :=
  let (n, next) := transfer state.1 offset left
  (n, next, state.2 ++ [{ offset, left, reply := n }])

/-- The turns that the loop takes within `fuel` ocalls. -/
def transferTurns (transfer : σ → Int → Nat → Int × σ) (count fuel : Nat) (offset : Int)
    (state : σ) : List Turn :=
  (transferRun (logged transfer) count fuel offset (state, [])).2.2

section Turns

variable (transfer : σ → Int → Nat → Int × σ) (count fuel : Nat) (offset : Int) (state : σ)

theorem transferRun_logged (turns : List Turn) :
    (transferRun (logged transfer) count fuel offset (state, turns)).2.2 =
      turns ++ transferTurns transfer count fuel offset state := by
  induction fuel generalizing offset state turns with
  | zero => exact (List.append_nil turns).symm
  | succ fuel ih =>
      have step : ∀ turns, logged transfer (state, turns) offset (sizeSub count offset) =
          ((transfer state offset (sizeSub count offset)).1,
            (transfer state offset (sizeSub count offset)).2,
            turns ++ [{ offset, left := sizeSub count offset,
                        reply := (transfer state offset (sizeSub count offset)).1 }]) :=
        fun _ => rfl
      simp only [transferTurns, transferRun, step]
      split_ifs
      · rw [ih, ih, List.nil_append, List.append_assoc]
      · rfl
      · rfl
      · rfl
      · exact (List.append_nil turns).symm

theorem transferTurns_zero : transferTurns transfer count 0 offset state = [] := rfl

theorem transferTurns_succ :
    transferTurns transfer count (fuel + 1) offset state =
      if count > 0 then
        let (n, next) := transfer state offset (sizeSub count offset)
        { offset, left := sizeSub count offset, reply := n } ::
          if n > 0 then transferTurns transfer count fuel (wrapInt (offset + n)) next else []
      else [] := by
  have step : logged transfer (state, []) offset (sizeSub count offset) =
      ((transfer state offset (sizeSub count offset)).1,
        (transfer state offset (sizeSub count offset)).2,
        [{ offset, left := sizeSub count offset,
           reply := (transfer state offset (sizeSub count offset)).1 }]) := rfl
  simp only [transferTurns, transferRun, step]
  split_ifs
  · exact transferRun_logged ..
  · rfl
  · rfl
  · rfl
  · rfl

theorem transferTurns_of_count_zero : transferTurns transfer 0 fuel offset state = [] := by
  cases fuel with
  | zero => rfl
  | succ fuel => rw [transferTurns_succ, if_neg (Nat.lt_irrefl 0)]

end Turns

/-- A record in the state of a transfer grows by what its turns add to it. -/
def Records {α : Type*} (record : σ → List α) (entries : Turn → List α)
    (transfer : σ → Int → Nat → Int × σ) : Prop :=
  ∀ state offset left, record (transfer state offset left).2 =
    record state ++ entries { offset, left, reply := (transfer state offset left).1 }

/-- A record of a run has the entries of all its turns. -/
theorem Records.run {α : Type*} {record : σ → List α} {entries : Turn → List α}
    {transfer : σ → Int → Nat → Int × σ} (records : Records record entries transfer)
    (count fuel : Nat) (offset : Int) (state : σ) :
    record (transferRun transfer count fuel offset state).2 =
      record state ++ (transferTurns transfer count fuel offset state).flatMap entries := by
  induction fuel generalizing offset state with
  | zero => exact (List.append_nil _).symm
  | succ fuel ih =>
      have recorded := records state offset (sizeSub count offset)
      rw [transferRun, transferTurns_succ]
      dsimp only
      split_ifs
      · rw [ih, recorded, List.flatMap_cons, List.append_assoc]
      · rw [recorded, List.flatMap_cons, List.flatMap_nil, List.append_nil]
      · rw [recorded, List.flatMap_cons, List.flatMap_nil, List.append_nil]
      · rw [recorded, List.flatMap_cons, List.flatMap_nil, List.append_nil]
      · exact (List.append_nil _).symm

/-- Transfers that another one makes in the same way on a part of the state. -/
def Erases (erase : τ → σ) (transfer' : τ → Int → Nat → Int × τ)
    (transfer : σ → Int → Nat → Int × σ) : Prop :=
  ∀ state offset left, transfer (erase state) offset left =
    ((transfer' state offset left).1, erase (transfer' state offset left).2)

section Erases

variable {erase : τ → σ} {transfer' : τ → Int → Nat → Int × τ} {transfer : σ → Int → Nat → Int × σ}

theorem transferRun_erase (erases : Erases erase transfer' transfer) (count fuel : Nat)
    (offset : Int) (state : τ) :
    transferRun transfer count fuel offset (erase state) =
      Prod.map id erase (transferRun transfer' count fuel offset state) := by
  induction fuel generalizing offset state with
  | zero => rfl
  | succ fuel ih =>
      rw [transferRun, transferRun, erases state]
      simp only [ih]
      split_ifs <;> rfl

theorem transferLoop_erase (erases : Erases erase transfer' transfer) (count fuel : Nat)
    (offset : Int) (state : τ) :
    transferLoop transfer count fuel offset (erase state) =
      (transferLoop transfer' count fuel offset state).map (Prod.map id erase) := by
  rw [transferLoop, transferLoop, transferRun_erase erases]
  rcases transferRun transfer' count fuel offset state with ⟨_ | result, last⟩ <;> rfl

theorem transferTurns_erase (erases : Erases erase transfer' transfer) (count fuel : Nat)
    (offset : Int) (state : τ) :
    transferTurns transfer' count fuel offset state =
      transferTurns transfer count fuel offset (erase state) := by
  induction fuel generalizing offset state with
  | zero => rfl
  | succ fuel ih => simp only [transferTurns_succ, erases state, ih]

end Erases

/-! ## Loops that only see replies -/

/-- A transfer that returns the next reply whatever it is asked for. -/
def nextReply (replies : Stream' Int) (_ : Int) (_ : Nat) : Int × Stream' Int :=
  (replies.head, replies.tail)

theorem transferTurns_nextReply (count fuel : Nat) (offset : Int) (replies : Stream' Int) :
    transferTurns nextReply count (fuel + 1) offset replies =
      if count > 0 then
        { offset, left := sizeSub count offset, reply := replies.head } ::
          if replies.head > 0 then
            transferTurns nextReply count fuel (wrapInt (offset + replies.head)) replies.tail
          else []
      else [] := transferTurns_succ nextReply count fuel offset replies

theorem transferLoop_nextReply (count fuel : Nat) (offset : Int) (replies : Stream' Int) :
    transferLoop nextReply count (fuel + 1) offset replies =
      if count > 0 then
        if replies.head > 0 then
          transferLoop nextReply count fuel (wrapInt (offset + replies.head)) replies.tail
        else if replies.head < 0 then
          if offset = 0 then some (replies.head, replies.tail) else some (offset, replies.tail)
        else some (offset, replies.tail)
      else some (offset, replies) := transferLoop_fuel_succ nextReply count fuel offset replies

/-- The replies to a transfer are known in advance. -/
def Answers (transfer : σ → Int → Nat → Int × σ) (replies : σ → Stream' Int) : Prop :=
  ∀ state offset left, (transfer state offset left).1 = (replies state).head ∧
    replies (transfer state offset left).2 = (replies state).tail

section Answers

variable {transfer : σ → Int → Nat → Int × σ} {replies : σ → Stream' Int}

theorem Answers.erases (answers : Answers transfer replies) :
    Erases replies transfer nextReply := by
  intro state offset left
  obtain ⟨reply_eq, next_eq⟩ := answers state offset left
  rw [reply_eq, next_eq]
  rfl

theorem transferTurns_answers (answers : Answers transfer replies) (count fuel : Nat)
    (offset : Int) (state : σ) :
    transferTurns transfer count fuel offset state =
      transferTurns nextReply count fuel offset (replies state) :=
  transferTurns_erase answers.erases count fuel offset state

theorem transferLoop_answers (answers : Answers transfer replies) (count fuel : Nat)
    (offset : Int) (state : σ) :
    (transferLoop transfer count fuel offset state).map Prod.fst =
      (transferLoop nextReply count fuel offset (replies state)).map Prod.fst := by
  rw [transferLoop_erase answers.erases, Option.map_map]
  rfl

end Answers

/-- The first replies are all positive, so the loop goes on after each of them. -/
def Accepted (replies : Stream' Int) (turns : Nat) : Prop :=
  ∀ index < turns, 0 < replies.get index

/-- Number of bytes that the first replies claim to have moved. -/
def received (replies : Stream' Int) (turns : Nat) : Int :=
  ∑ index ∈ Finset.range turns, replies.get index

theorem received_succ (replies : Stream' Int) (turns : Nat) :
    received replies (turns + 1) = received replies turns + replies.get turns :=
  Finset.sum_range_succ _ _

theorem received_succ' (replies : Stream' Int) (turns : Nat) :
    received replies (turns + 1) = replies.head + received replies.tail turns := by
  rw [received, Finset.sum_range_succ', add_comm]
  rfl

theorem accepted_succ' {replies : Stream' Int} {turns : Nat} :
    Accepted replies (turns + 1) ↔ 0 < replies.head ∧ Accepted replies.tail turns := by
  constructor
  · intro accepted
    exact ⟨accepted 0 (Nat.succ_pos _), fun index index_lt => accepted (index + 1) (by omega)⟩
  · rintro ⟨first, rest⟩ index index_lt
    cases index with
    | zero => exact first
    | succ index => exact rest index (by omega)

theorem Accepted.of_succ {replies : Stream' Int} {turns : Nat}
    (accepted : Accepted replies (turns + 1)) : Accepted replies turns :=
  fun index index_lt => accepted index (by omega)

/-- Accepted replies claim at least one byte each. -/
theorem Accepted.le_received {replies : Stream' Int} {turns : Nat}
    (accepted : Accepted replies turns) : turns ≤ received replies turns := by
  induction turns with
  | zero => simp [received]
  | succ turns ih =>
      have earlier := ih accepted.of_succ
      have last := accepted turns (Nat.lt_succ_self _)
      rw [received_succ]
      push_cast
      omega

/-- The turn that follows some accepted replies. -/
def turnAfter (count : Nat) (replies : Stream' Int) (offset : Int) (turns : Nat) : Turn where
  offset := wrapInt (offset + received replies turns)
  left := sizeSub count (wrapInt (offset + received replies turns))
  reply := replies.get turns

theorem turnAfter_tail (count : Nat) (replies : Stream' Int) (offset : Int) (turns : Nat) :
    turnAfter count replies.tail (offset + replies.head) turns =
      turnAfter count replies offset (turns + 1) := by
  simp only [turnAfter, received_succ', ← add_assoc]
  rfl

/-- The turns of a loop are those after an accepted number of replies. -/
theorem mem_transferTurns {count : Nat} (count_pos : 0 < count) {fuel : Nat} {offset : Int}
    {replies : Stream' Int} {turn : Turn} :
    turn ∈ transferTurns nextReply count fuel (wrapInt offset) replies ↔
      ∃ turns < fuel, Accepted replies turns ∧ turn = turnAfter count replies offset turns := by
  induction fuel generalizing offset replies with
  | zero => simp [transferTurns_zero]
  | succ fuel ih =>
      have first_eq : turnAfter count replies offset 0 =
          { offset := wrapInt offset, left := sizeSub count (wrapInt offset),
            reply := replies.head } := by
        simp [turnAfter, received, Stream'.head]
      have none_accepted : Accepted replies 0 := fun index index_lt => absurd index_lt (by omega)
      simp only [transferTurns_nextReply, if_pos count_pos, wrapInt_wrapInt_add, ← first_eq]
      by_cases more : replies.head > 0
      · rw [if_pos more, List.mem_cons, ih]
        constructor
        · rintro (rfl | ⟨turns, turns_lt, accepted, rfl⟩)
          · exact ⟨0, Nat.succ_pos _, none_accepted, rfl⟩
          · exact ⟨turns + 1, by omega, accepted_succ'.mpr ⟨more, accepted⟩,
              turnAfter_tail _ _ _ _⟩
        · rintro ⟨turns, turns_lt, accepted, rfl⟩
          cases turns with
          | zero => exact .inl rfl
          | succ turns =>
              exact .inr ⟨turns, by omega, (accepted_succ'.mp accepted).2,
                (turnAfter_tail _ _ _ _).symm⟩
      · rw [if_neg more, List.mem_singleton]
        constructor
        · rintro rfl
          exact ⟨0, Nat.succ_pos _, none_accepted, rfl⟩
        · rintro ⟨turns, turns_lt, accepted, rfl⟩
          cases turns with
          | zero => rfl
          | succ turns => exact absurd (accepted_succ'.mp accepted).1 more

/-- A loop that has not ended had all its ocalls accepted. -/
theorem accepted_of_transferLoop_eq_none {count fuel : Nat} {offset : Int} {replies : Stream' Int}
    (running : transferLoop nextReply count fuel offset replies = none) :
    Accepted replies fuel := by
  induction fuel generalizing offset replies with
  | zero => exact fun index index_lt => absurd index_lt (Nat.not_lt_zero _)
  | succ fuel ih =>
      rw [transferLoop_nextReply] at running
      split_ifs at running with count_pos more
      exact accepted_succ'.mpr ⟨more, ih running⟩

/-- A loop returns a negative reply or the offset that it reached after some accepted replies. -/
theorem result_of_transferLoop {count fuel : Nat} (count_pos : 0 < count) {offset result : Int}
    {replies later : Stream' Int}
    (ended : transferLoop nextReply count fuel (wrapInt offset) replies = some (result, later)) :
    result < 0 ∨
      ∃ turns, Accepted replies turns ∧ result = wrapInt (offset + received replies turns) := by
  induction fuel generalizing offset replies with
  | zero => exact absurd ended (by simp [transferLoop_fuel_zero])
  | succ fuel ih =>
      have first : Accepted replies 0 ∧ wrapInt offset = wrapInt (offset + received replies 0) :=
        ⟨fun index index_lt => absurd index_lt (Nat.not_lt_zero _), by simp [received]⟩
      rw [transferLoop_nextReply, if_pos count_pos, wrapInt_wrapInt_add] at ended
      split_ifs at ended with more negative initial
      · rcases ih ended with refused | ⟨turns, accepted, result_eq⟩
        · exact .inl refused
        · refine .inr ⟨turns + 1, accepted_succ'.mpr ⟨more, accepted⟩, ?_⟩
          rw [result_eq, received_succ', add_assoc]
      · obtain ⟨rfl, -⟩ := Prod.mk.inj (Option.some.inj ended)
        exact .inl negative
      · obtain ⟨rfl, -⟩ := Prod.mk.inj (Option.some.inj ended)
        exact .inr ⟨0, first⟩
      · obtain ⟨rfl, -⟩ := Prod.mk.inj (Option.some.inj ended)
        exact .inr ⟨0, first⟩

/-! ## Hosts that reply what they like -/

/-- Values of the replies to a run of writes. -/
def Replies.written (replies : Replies) : Stream' Int := replies.writes.map Subtype.val

/-- Values of the `ret` fields of the replies to a run of reads. -/
def Replies.read (replies : Replies) : Stream' Int := replies.reads.map fun reply => reply.val.ret

theorem Replies.get_written_lt (replies : Replies) (index : Nat) :
    replies.written.get index < 2 ^ 31 :=
  (replies.writes.get index).property.2

theorem answers_writeTransfer (fd : Int) (buf : Bytes) :
    Answers (Untrusted.hostile.writeTransfer fd buf) Replies.written :=
  fun _ _ _ => ⟨rfl, rfl⟩

/-- The hostile host decides what `ocall_read_file` returns and copies. -/
theorem hostile_ocallReadFile (destination : Destination μ) (replies : Replies) (fd : Int) (buf : μ)
    (offset : Int) (count : Nat) :
    Untrusted.hostile.ocallReadFile destination replies fd buf offset count =
      (replies.reads.head.val.ret, { replies with reads := replies.reads.tail },
        if replies.reads.head.val.ret > 0 then
          destination.memcpy buf offset replies.reads.head.val.b replies.reads.head.val.ret.toNat
        else buf) := by
  unfold Untrusted.ocallReadFile
  dsimp only [Untrusted.hostile]
  split <;> rfl

theorem answers_readTransfer (destination : Destination μ) (fd : Int) :
    Answers (Untrusted.hostile.readTransfer destination fd) fun state => state.1.read := by
  rintro ⟨replies, buffer⟩ offset left
  rw [Untrusted.readTransfer, hostile_ocallReadFile]
  exact ⟨rfl, rfl⟩

/-- The turns of `ocall_write_file_full`, cut off after `fuel` ocalls. -/
def Untrusted.writeTurns (side : Untrusted σ) (fuel : Nat) (host : σ) (fd : Int) (buf : Bytes)
    (count : Nat) : List Turn :=
  transferTurns (side.writeTransfer fd buf) count fuel 0 host

/-- The turns of `ocall_read_file_full`, cut off after `fuel` ocalls. -/
def Untrusted.readTurns (side : Untrusted σ) (fuel : Nat) (host : σ) (fd : Int) (buf : Bytes)
    (count : Nat) : List Turn :=
  transferTurns (side.readTransfer .plain fd) count fuel 0 (host, buf)

theorem mem_writeTurns {fuel : Nat} {replies : Replies} {fd : Int} {buf : Bytes} {count : Nat}
    (count_pos : 0 < count) {turn : Turn} :
    turn ∈ Untrusted.hostile.writeTurns fuel replies fd buf count ↔
      ∃ turns < fuel, Accepted replies.written turns ∧
        turn = turnAfter count replies.written 0 turns := by
  rw [Untrusted.writeTurns, transferTurns_answers (answers_writeTransfer fd buf)]
  exact @mem_transferTurns count count_pos fuel 0 replies.written turn

theorem mem_readTurns {fuel : Nat} {replies : Replies} {fd : Int} {buf : Bytes} {count : Nat}
    (count_pos : 0 < count) {turn : Turn} :
    turn ∈ Untrusted.hostile.readTurns fuel replies fd buf count ↔
      ∃ turns < fuel, Accepted replies.read turns ∧
        turn = turnAfter count replies.read 0 turns := by
  rw [Untrusted.readTurns, transferTurns_answers (answers_readTransfer .plain fd)]
  exact @mem_transferTurns count count_pos fuel 0 replies.read turn

/-- While the replies claim no more than was asked for, the offset is what they claim. -/
theorem turnAfter_of_le {count turns : Nat} {replies : Stream' Int} (count_lt : count < 2 ^ 31)
    (accepted : Accepted replies turns) (within : received replies turns ≤ count) :
    turnAfter count replies 0 turns =
      { offset := received replies turns
        left := count - (received replies turns).toNat
        reply := replies.get turns } := by
  have claimed := accepted.le_received
  obtain ⟨total, total_eq⟩ := Int.eq_ofNat_of_zero_le (show 0 ≤ received replies turns by omega)
  rw [turnAfter, zero_add, total_eq, wrapInt_of_lt (by omega), sizeSub_of_le count_lt (by omega),
    Int.toNat_natCast]

/-- A host that claims a first transfer and then nothing more. -/
def Replies.once (claim : CInt) : Replies where
  writes := Stream'.cons claim (Stream'.const ⟨0, by decide⟩)
  reads := Stream'.cons ⟨{ ret := claim.val, b := List.replicate 256 0 }, claim.property,
      List.length_replicate⟩
    (Stream'.const ⟨{ ret := 0, b := List.replicate 256 0 }, by decide, List.length_replicate⟩)

theorem accepted_once (claim : CInt) {replies : Stream' Int} {turns : Nat}
    (first : replies.get 0 = claim.val) (second : replies.get 1 = 0)
    (accepted : Accepted replies turns) :
    turns = 0 ∨ turns = 1 ∧ received replies turns = claim.val := by
  match turns, accepted with
  | 0, _ => exact .inl rfl
  | 1, _ => exact .inr ⟨rfl, by simp [received, first]⟩
  | turns + 2, accepted =>
      have positive := accepted 1 (by omega)
      omega

/-! ## The write loop -/

/-- `ocall_write_file_full`, cut off after `fuel` ocalls: what it has returned, and the parts of the
buffer that it has handed to the host. -/
def Untrusted.watchWrite (side : Untrusted σ) (fuel : Nat) (host : σ) (fd : Int) (buf : Bytes)
    (count : Nat) : Option Int × List Extent :=
  let (result, last) := transferRun (side.watching.writeTransfer fd buf) count fuel 0 (host, [])
  (result, last.2)

/-- `ocall_write_file_full` hands out parts of its buffer only, and returns at most its length,
however long the host keeps it running. -/
def WriteContained (replies : Replies) (fd : Int) (buf : Bytes) : Prop :=
  ∀ fuel,
    (∀ extent ∈ (Untrusted.hostile.watchWrite fuel replies fd buf buf.length).2,
      extent.Inside buf.length) ∧
    ∀ result, (Untrusted.hostile.watchWrite fuel replies fd buf buf.length).1 = some result →
      result ≤ buf.length

section WatchWrite

variable (side : Untrusted σ) (fuel : Nat) (host : σ) (fd : Int) (buf : Bytes) (count : Nat)

/-- The record changes nothing about the loop. -/
theorem watchWrite_result :
    (side.watchWrite fuel host fd buf count).1 =
      (side.ocallWriteFileFull fuel host fd buf count).map Prod.fst := by
  have same : transferLoop (side.writeTransfer fd buf) count fuel 0 host =
      (transferLoop (side.watching.writeTransfer fd buf) count fuel 0 (host, [])).map
        (Prod.map id Prod.fst) :=
    @transferLoop_erase _ _ Prod.fst _ _ (fun _ _ _ => rfl) count fuel 0 (host, [])
  rw [Untrusted.watchWrite, Untrusted.ocallWriteFileFull, same, transferLoop]
  rcases transferRun (side.watching.writeTransfer fd buf) count fuel 0 (host, []) with
    ⟨_ | result, last⟩ <;> rfl

/-- The part of the buffer that a turn hands to the host. -/
def Turn.handed (turn : Turn) : Extent where
  offset := turn.offset
  length := if turn.left > 256 then 256 else turn.left

/-- Every turn hands over one part, cut at 256 bytes. -/
theorem watchWrite_extents :
    (side.watchWrite fuel host fd buf count).2 =
      (side.writeTurns fuel host fd buf count).map Turn.handed := by
  have records : Records Prod.snd (fun turn => [turn.handed])
      (side.watching.writeTransfer fd buf) := fun _ _ _ => rfl
  have turns : transferTurns (side.watching.writeTransfer fd buf) count fuel 0 (host, []) =
      side.writeTurns fuel host fd buf count :=
    @transferTurns_erase _ _ Prod.fst _ _ (fun _ _ _ => rfl) count fuel 0 (host, [])
  have run := records.run count fuel 0 (host, [])
  rw [turns, List.nil_append] at run
  rw [Untrusted.watchWrite, List.map_eq_flatMap]
  exact run

end WatchWrite

/-- The replies that the loop accepts claim no more bytes than were asked for. -/
def ClaimsWithin (replies : Stream' Int) (count : Nat) : Prop :=
  ∀ turns, Accepted replies turns → received replies turns ≤ count

/-- It is enough that no accepted reply claims more than what is left. -/
theorem ClaimsWithin.of_next {replies : Stream' Int} {count : Nat}
    (next : ∀ turns, Accepted replies (turns + 1) → received replies turns ≤ count →
      received replies (turns + 1) ≤ count) : ClaimsWithin replies count := by
  intro turns
  induction turns with
  | zero => simp [received]
  | succ turns ih => exact fun accepted => next turns accepted (ih accepted.of_succ)

theorem transferLoop_zero (transfer : σ → Int → Nat → Int × σ) (fuel : Nat) (offset : Int)
    (state : σ) : transferLoop transfer 0 (fuel + 1) offset state = some (offset, state) := rfl

/-- The loop returns at most `count` when the replies claim no more. -/
theorem transferLoop_le {transfer : σ → Int → Nat → Int × σ} {replies : σ → Stream' Int}
    (answers : Answers transfer replies) {count fuel : Nat} (count_lt : count < 2 ^ 31)
    {state later : σ} {result : Int} (within : count = 0 ∨ ClaimsWithin (replies state) count)
    (ended : transferLoop transfer count fuel 0 state = some (result, later)) :
    result ≤ count := by
  rcases Nat.eq_zero_or_pos count with rfl | count_pos
  · cases fuel with
    | zero => exact absurd ended (by simp [transferLoop_fuel_zero])
    | succ fuel =>
        rw [transferLoop_zero] at ended
        obtain ⟨rfl, -⟩ := Prod.mk.inj (Option.some.inj ended)
        exact le_rfl
  · have claims := within.resolve_left (Nat.ne_of_gt count_pos)
    have same := transferLoop_answers answers count fuel 0 state
    rw [ended] at same
    obtain ⟨⟨value, rest⟩, ended', rfl⟩ := Option.map_eq_some_iff.mp same.symm
    rcases @result_of_transferLoop count fuel count_pos 0 value (replies state) rest ended' with
      refused | ⟨turns, accepted, result_eq⟩
    · exact (Int.le_of_lt refused).trans (Int.natCast_nonneg count)
    · have offset_eq := congrArg Turn.offset
        (turnAfter_of_le count_lt accepted (claims turns accepted))
      rw [result_eq]
      exact (le_of_eq offset_eq).trans (claims turns accepted)

/-- Against any host, the write loop stays inside its buffer exactly when the buffer is empty or the
accepted replies claim no more bytes than it has. -/
theorem write_loop_contained_iff (replies : Replies) (fd : Int) {buf : Bytes}
    (buf_lt : buf.length < 2 ^ 31) :
    WriteContained replies fd buf ↔
      buf.length = 0 ∨ ClaimsWithin replies.written buf.length := by
  constructor
  · intro contained
    rcases Nat.eq_zero_or_pos buf.length with empty | buf_pos
    · exact .inl empty
    · refine .inr (.of_next fun turns accepted earlier => ?_)
      have claimed := accepted.le_received
      have last_lt := replies.get_written_lt turns
      have handed := (contained (turns + 2)).1
      rw [watchWrite_extents, List.forall_mem_map] at handed
      obtain ⟨offset_nonneg, offset_le⟩ := handed _
        ((mem_writeTurns buf_pos).mpr ⟨turns + 1, by omega, accepted, rfl⟩)
      -- the sum of the replies is below `2 ^ 32`, so a wrapped offset is negative
      rw [received_succ] at claimed ⊢
      simp only [Turn.handed, turnAfter, zero_add, received_succ, wrapInt, Int.bmod_def]
        at offset_nonneg offset_le
      omega
  · intro within fuel
    refine ⟨?_, fun result ended => ?_⟩
    · rw [watchWrite_extents, List.forall_mem_map]
      intro turn member
      rcases Nat.eq_zero_or_pos buf.length with empty | buf_pos
      · rw [empty, Untrusted.writeTurns, transferTurns_of_count_zero] at member
        exact absurd member List.not_mem_nil
      · obtain ⟨turns, _, accepted, rfl⟩ := (mem_writeTurns buf_pos).mp member
        have claims := within.resolve_left (Nat.ne_of_gt buf_pos) turns accepted
        have claimed := accepted.le_received
        rw [turnAfter_of_le buf_lt accepted claims]
        refine ⟨by dsimp only [Turn.handed]; omega, ?_⟩
        dsimp only [Turn.handed]
        split <;> omega
    · rw [watchWrite_result, Option.map_eq_some_iff] at ended
      obtain ⟨⟨value, later⟩, run, rfl⟩ := ended
      exact transferLoop_le (answers_writeTransfer fd buf) buf_lt within run

/-- A claim of the bytes asked for is contained. -/
theorem write_loop_contained_whole :
    WriteContained (.once ⟨16, by decide⟩) 3 (List.replicate 16 0) :=
  (write_loop_contained_iff _ _ (by decide)).mpr <| .inr fun turns accepted => by
    rcases accepted_once ⟨16, by decide⟩ rfl rfl accepted with rfl | ⟨rfl, claimed⟩
    · simp [received]
    · exact le_of_eq claimed

/-- A claim of thirty-two bytes for sixteen makes the loop hand out memory behind its buffer. -/
theorem write_loop_leaks : ¬ WriteContained (.once ⟨32, by decide⟩) 3 (List.replicate 16 0) := by
  intro contained
  have exposed := (contained 2).1 { offset := 32, length := 256 } (.tail _ (.head _))
  exact absurd exposed.2 (by decide)

/-! ## The read loop -/

/-- `TEE_ReadObjectData` on Keystone over any read loop. -/
def Keystone.teeReadObjectDataOver {lib : Mbedtls}
    (readFileFull : Enclave lib → Int → Bytes → Nat → Option (Int × Enclave lib × Bytes))
    (tee : Enclave lib) (object : Option Nat) (buffer : Bytes) (size : Nat) :
    ReadCall × Enclave lib :=
  match tee.persistent? object with
  | none => ({ exit := .returned .errorBadParameters, buffer, count := none }, tee)
  | some handle =>
      if size % 16 ≠ 0 then
        ({ exit := .returned .errorBadParameters, buffer, count := none }, tee)
      else
        match readFileFull tee handle.desc buffer size with
        | none => ({ exit := .running, buffer, count := none }, tee)
        | some (retval, tee, buffer) =>
            if retval < 0 then
              ({ exit := .returned .errorGeneric, buffer, count := none }, tee)
            else
              let size := retval.toNat
              if size % 16 ≠ 0 then
                ({ exit := .returned .errorGeneric, buffer, count := some size }, tee)
              else if size = 0 then
                ({ exit := .returned .success, buffer, count := some size }, tee)
              else decryptInto tee object handle buffer size

variable {lib : Mbedtls}

theorem Keystone.teeReadObjectData_eq_over (tee : Enclave lib) (object : Option Nat)
    (buffer : Bytes) (size : Nat) :
    teeReadObjectData tee object buffer size =
      teeReadObjectDataOver (fun tee fd buf count =>
          (Keyedge.ocallReadFileFull tee.host fd buf count).map fun (n, host, buf) =>
            (n, { tee with host }, buf)) tee object buffer size := by
  unfold teeReadObjectData teeReadObjectDataOver
  cases tee.persistent? object with
  | none => rfl
  | some handle =>
      dsimp only
      split
      · rfl
      · cases Keyedge.ocallReadFileFull tee.host handle.desc buffer size <;> rfl

/-- The read loop of the hostile host, under a state whose own host is not asked. -/
def hostileReadFileFull (replies : Replies) (tee : Enclave lib) (fd : Int) (buf : Bytes)
    (count : Nat) : Option (Int × Enclave lib × Bytes) :=
  (Untrusted.hostile.ocallReadFileFull (count + 1) replies fd buf count).map fun (n, _, buf) =>
    (n, tee, buf)

/-- `ocall_read_file_full`, cut off after `fuel` ocalls: what it has returned, and the copies that
it has made. -/
def Untrusted.watchRead (side : Untrusted σ) (fuel : Nat) (host : σ) (fd : Int) (buf : Bytes)
    (count : Nat) : Option Int × List Memcpy :=
  let (result, last) :=
    transferRun (side.readTransfer Destination.plain.watching fd) count fuel 0 (host, buf, [])
  (result, last.2.2)

/-- `ocall_read_file_full` copies from payloads and into its buffer only, and ends after at most
`count + 1` ocalls with at most `count`; and `TEE_ReadObjectData` stores no more in `*count`. -/
def ReadContained (replies : Replies) (fd : Int) (buf : Bytes) : Prop :=
  (∀ fuel, ∀ copy ∈ (Untrusted.hostile.watchRead fuel replies fd buf buf.length).2,
    copy.Inside buf.length) ∧
  (∃ result, result ≤ (buf.length : Int) ∧
    (Untrusted.hostile.watchRead (buf.length + 1) replies fd buf buf.length).1 = some result) ∧
  ∀ (lib : Mbedtls) (tee : Enclave lib) object stored,
    (Keystone.teeReadObjectDataOver (hostileReadFileFull replies) tee object buf
      buf.length).1.count = some stored → stored ≤ buf.length

section WatchRead

variable (side : Untrusted σ) (fuel : Nat) (fd : Int) (buf : Bytes) (count : Nat)

theorem erases_watching : Erases (Prod.map id Prod.fst)
    (side.readTransfer Destination.plain.watching fd) (side.readTransfer .plain fd) := by
  intro state offset left
  simp only [Untrusted.readTransfer, Untrusted.ocallReadFile, Prod.map_fst, Prod.map_snd, id]
  split <;> rfl

/-- The record changes nothing about the loop. -/
theorem watchRead_result (host : σ) :
    (side.watchRead fuel host fd buf count).1 =
      (side.ocallReadFileFull fuel host fd buf count).map Prod.fst := by
  have same : transferLoop (side.readTransfer .plain fd) count fuel 0 (host, buf) =
      (transferLoop (side.readTransfer Destination.plain.watching fd) count fuel 0
        (host, buf, [])).map (Prod.map id (Prod.map id Prod.fst)) :=
    transferLoop_erase (erases_watching side fd) count fuel 0 (host, buf, [])
  rw [Untrusted.watchRead, Untrusted.ocallReadFileFull, same, transferLoop]
  rcases transferRun (side.readTransfer Destination.plain.watching fd) count fuel 0
    (host, buf, []) with ⟨_ | result, last⟩ <;> rfl

/-- The copy that a turn makes from a payload, if any. -/
def Turn.copied (turn : Turn) : List Memcpy :=
  if turn.reply > 0 then
    [{ source := 256, target := { offset := turn.offset, length := turn.reply.toNat } }]
  else []

/-- Every turn copies what the host claims to have sent. -/
theorem watchRead_copies (replies : Replies) :
    (Untrusted.hostile.watchRead fuel replies fd buf count).2 =
      (Untrusted.hostile.readTurns fuel replies fd buf count).flatMap Turn.copied := by
  have records : Records (fun state => state.2.2) Turn.copied
      (Untrusted.hostile.readTransfer Destination.plain.watching fd) := by
    intro state offset left
    have payload := state.1.reads.head.property.2
    rw [Untrusted.readTransfer, hostile_ocallReadFile, Turn.copied]
    split
    · simp only [Destination.watching, payload]
    · exact (List.append_nil _).symm
  have turns : transferTurns (Untrusted.hostile.readTransfer Destination.plain.watching fd) count
      fuel 0 (replies, buf, []) = Untrusted.hostile.readTurns fuel replies fd buf count :=
    transferTurns_erase (erases_watching _ fd) count fuel 0 (replies, buf, [])
  have run := records.run count fuel 0 (replies, buf, [])
  rw [turns] at run
  exact run

/-- When all copies of the loop stay inside. -/
theorem watchRead_inside_iff {replies : Replies} :
    (∀ copy ∈ (Untrusted.hostile.watchRead fuel replies fd buf count).2, copy.Inside count) ↔
      ∀ turn ∈ Untrusted.hostile.readTurns fuel replies fd buf count, 0 < turn.reply →
        turn.reply ≤ 256 ∧ 0 ≤ turn.offset ∧ turn.offset + turn.reply ≤ count := by
  rw [watchRead_copies]
  simp only [List.mem_flatMap, forall_exists_index, and_imp]
  constructor
  · intro inside turn member positive
    obtain ⟨fits, start, stop⟩ := inside _ turn member
      (by rw [Turn.copied, if_pos positive]; exact List.mem_singleton_self _)
    dsimp only at fits start stop
    omega
  · intro inside copy turn member copied
    rw [Turn.copied] at copied
    split at copied
    · rename_i positive
      obtain ⟨fits, start, stop⟩ := inside turn member positive
      rw [List.mem_singleton.mp copied]
      refine ⟨?_, start, ?_⟩
      · dsimp only
        omega
      · dsimp only
        omega
    · exact absurd copied List.not_mem_nil

end WatchRead

theorem decryptInto_count (tee : Enclave lib) (object : Option Nat) (handle : StoredObject lib)
    (buffer : Bytes) (size : Nat) :
    (decryptInto tee object handle buffer size).1.count = some size := by
  unfold decryptInto
  split <;> rfl

/-- What `TEE_ReadObjectData` stores in `*count` is what its read loop returned. -/
theorem Keystone.count_of_teeReadObjectDataOver
    {readFileFull : Enclave lib → Int → Bytes → Nat → Option (Int × Enclave lib × Bytes)}
    {tee : Enclave lib} {object : Option Nat} {buffer : Bytes} {size stored : Nat}
    (count_eq : (teeReadObjectDataOver readFileFull tee object buffer size).1.count =
      some stored) :
    ∃ fd later, readFileFull tee fd buffer size = some ((stored : Int), later) := by
  unfold teeReadObjectDataOver at count_eq
  split at count_eq
  · exact absurd count_eq (by simp)
  rename_i handle _
  split at count_eq
  · exact absurd count_eq (by simp)
  split at count_eq
  · exact absurd count_eq (by simp)
  rename_i retval tee' buffer' run
  split at count_eq
  · exact absurd count_eq (by simp)
  rename_i counted
  have stored_eq : retval.toNat = stored := by
    dsimp only at count_eq
    split_ifs at count_eq
    · exact Option.some.inj count_eq
    · exact Option.some.inj count_eq
    · rw [decryptInto_count] at count_eq
      exact Option.some.inj count_eq
  refine ⟨handle.desc, (tee', buffer'), ?_⟩
  rw [run, ← stored_eq, Int.toNat_of_nonneg (Int.not_lt.mp counted)]

/-- The replies that the loop accepts are sizes of a payload. -/
def FitsPayload (replies : Stream' Int) : Prop :=
  ∀ turns, Accepted replies turns → replies.get turns ≤ 256

section Contained

variable {replies : Replies} {buf : Bytes} (buf_lt : buf.length < 2 ^ 31)

include buf_lt

/-- When the accepted replies claim no more than was asked for, the read loop ends, and returns no
more. -/
theorem hostile_ocallReadFileFull_ends
    (within : buf.length = 0 ∨ ClaimsWithin replies.read buf.length) (fd : Int) :
    ∃ result later, result ≤ (buf.length : Int) ∧
      Untrusted.hostile.ocallReadFileFull (buf.length + 1) replies fd buf buf.length =
        some (result, later) := by
  have answers := answers_readTransfer Destination.plain fd
  cases run : Untrusted.hostile.ocallReadFileFull (buf.length + 1) replies fd buf buf.length with
  | some ended =>
      exact ⟨ended.1, ended.2, transferLoop_le answers buf_lt within run, rfl⟩
  | none =>
      exfalso
      rcases Nat.eq_zero_or_pos buf.length with empty | buf_pos
      · rw [empty] at run
        exact absurd run (by simp [Untrusted.ocallReadFileFull, transferLoop_zero])
      · have same := transferLoop_answers answers buf.length (buf.length + 1) 0 (replies, buf)
        rw [show transferLoop _ _ _ _ _ = none from run] at same
        -- every one of `count + 1` accepted replies claims a byte
        have accepted := accepted_of_transferLoop_eq_none (Option.map_eq_none_iff.mp same.symm)
        have claimed := accepted.le_received
        have bounded := within.resolve_left (Nat.ne_of_gt buf_pos) _ accepted
        push_cast at claimed
        omega

/-- When they are sizes of a payload besides, every accepted reply fits the bytes that are left. -/
theorem readTurns_inside
    (within : buf.length = 0 ∨
      FitsPayload replies.read ∧ ClaimsWithin replies.read buf.length) {fuel : Nat} {fd : Int}
    {turn : Turn} (member : turn ∈ Untrusted.hostile.readTurns fuel replies fd buf buf.length)
    (positive : 0 < turn.reply) :
    turn.reply ≤ 256 ∧ 0 ≤ turn.offset ∧ turn.offset + turn.reply ≤ buf.length := by
  rcases Nat.eq_zero_or_pos buf.length with empty | buf_pos
  · rw [empty, Untrusted.readTurns, transferTurns_of_count_zero] at member
    exact absurd member List.not_mem_nil
  · obtain ⟨turns, _, accepted, rfl⟩ := (mem_readTurns buf_pos).mp member
    obtain ⟨fits, claimed⟩ := within.resolve_left (Nat.ne_of_gt buf_pos)
    have next : Accepted replies.read (turns + 1) := by
      intro index index_lt
      rcases Nat.lt_succ_iff_lt_or_eq.mp index_lt with earlier | rfl
      · exact accepted index earlier
      · exact positive
    have before := accepted.le_received
    have after := claimed _ next
    rw [received_succ] at after
    rw [turnAfter_of_le buf_lt accepted (claimed turns accepted)]
    exact ⟨fits turns accepted, by dsimp only; omega, after⟩

/-- The other way round, accepted replies that fit the bytes left are sizes of a payload, and claim
no more than was asked for. -/
theorem claims_of_readTurns_inside (buf_pos : 0 < buf.length) {fd : Int}
    (inside : ∀ fuel, ∀ turn ∈ Untrusted.hostile.readTurns fuel replies fd buf buf.length,
      0 < turn.reply → turn.reply ≤ 256 ∧ 0 ≤ turn.offset ∧ turn.offset + turn.reply ≤ buf.length) :
    FitsPayload replies.read ∧ ClaimsWithin replies.read buf.length := by
  have fits : ∀ turns, Accepted replies.read turns → 0 < replies.read.get turns → _ :=
    fun turns accepted => inside (turns + 1) _
      ((mem_readTurns buf_pos).mpr ⟨turns, by omega, accepted, rfl⟩)
  constructor
  · intro turns accepted
    rcases Int.lt_or_le 0 (replies.read.get turns) with positive | stalled
    · exact (fits turns accepted positive).1
    · omega
  · refine .of_next fun turns accepted earlier => ?_
    obtain ⟨_, _, left⟩ := fits turns accepted.of_succ (accepted turns (Nat.lt_succ_self _))
    rw [turnAfter_of_le buf_lt accepted.of_succ earlier] at left
    rw [received_succ]
    exact left

end Contained

/-- Against any host, the read loop stays inside its buffers exactly when the buffer is empty or the
accepted replies are sizes of a payload and claim no more bytes than were asked for. -/
theorem read_loop_contained_iff (replies : Replies) (fd : Int) {buf : Bytes}
    (buf_lt : buf.length < 2 ^ 31) :
    ReadContained replies fd buf ↔
      buf.length = 0 ∨
        FitsPayload replies.read ∧ ClaimsWithin replies.read buf.length := by
  constructor
  · rintro ⟨copies, -, -⟩
    rcases Nat.eq_zero_or_pos buf.length with empty | buf_pos
    · exact .inl empty
    · exact .inr (claims_of_readTurns_inside buf_lt buf_pos
        fun fuel => (watchRead_inside_iff ..).mp (copies fuel))
  · intro within
    have ends := hostile_ocallReadFileFull_ends buf_lt (within.imp_right And.right)
    refine ⟨fun fuel => (watchRead_inside_iff ..).mpr fun turn => readTurns_inside buf_lt within,
      ?_, ?_⟩
    · obtain ⟨result, later, result_le, ended⟩ := ends fd
      exact ⟨result, result_le, by rw [watchRead_result, ended]; rfl⟩
    · intro lib tee object stored count_eq
      obtain ⟨desc, later, run⟩ := Keystone.count_of_teeReadObjectDataOver count_eq
      obtain ⟨result, rest, result_le, ended⟩ := ends desc
      rw [hostileReadFileFull, ended] at run
      obtain ⟨rfl, -⟩ := Prod.mk.inj (Option.some.inj run)
      exact_mod_cast result_le

/-- A claim of the bytes asked for is contained. -/
theorem read_loop_contained_whole :
    ReadContained (.once ⟨16, by decide⟩) 3 (List.replicate 16 0) := by
  refine (read_loop_contained_iff _ _ (by decide)).mpr (.inr ⟨?_, ?_⟩)
  · intro turns accepted
    rcases accepted_once ⟨16, by decide⟩ rfl rfl accepted with rfl | ⟨rfl, _⟩ <;> decide
  · intro turns accepted
    rcases accepted_once ⟨16, by decide⟩ rfl rfl accepted with rfl | ⟨rfl, claimed⟩
    · simp [received]
    · exact le_of_eq claimed

/-- A claim of thirty-two bytes for sixteen makes the loop write behind its buffer. -/
theorem read_loop_overflows : ¬ ReadContained (.once ⟨32, by decide⟩) 3 (List.replicate 16 0) := by
  rintro ⟨copies, -, -⟩
  have copied := copies 1 { source := 256, target := { offset := 0, length := 32 } }
    (by decide +kernel)
  exact absurd copied.2.2 (by decide)

end TaRef
