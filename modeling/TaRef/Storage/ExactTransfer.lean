import TaRef.Storage.HostileHost

/-!
# The transfer loops against an honest host

A host is honest when it moves no more than a transfer asks for and nothing when it asks for
nothing.  The count of the loops never falls, so it is the transfer of zero bytes that ends them,
and what they have moved then is the start of the buffer, without gaps or repetition.
-/

namespace TaRef

variable {σ : Type*}

/-- The reply to a transfer is one that the host can give: for `k > 0` bytes `1` to `min k 256`, or
`0`, or an error, and `0` for none. -/
def Turn.Honest (turn : Turn) : Prop :=
  if turn.left = 0 then turn.reply = 0 else turn.reply ≤ (min turn.left 256 : Nat)

/-! ## Runs of a loop -/

/-- A loop that starts with `done` bytes moved takes these turns and ends with this result. -/
inductive HonestRun (transfer : σ → Int → Nat → Int × σ) (count : Nat) :
    Nat → σ → List Turn → Int → σ → Prop
  | idle {state : σ} (nothing : count = 0) : HonestRun transfer count 0 state [] 0 state
  | moved {done n : Nat} {state next last : σ} {turns : List Turn} {result : Int} (n_pos : 0 < n)
      (n_le : n ≤ 256) (inside : done + n ≤ count)
      (moves : transfer state done (count - done) = ((n : Int), next))
      (rest : HonestRun transfer count (done + n) next turns result last) :
      HonestRun transfer count done state
        ({ offset := done, left := count - done, reply := n } :: turns) result last
  | ended {done : Nat} {state last : σ} {reply : Int} (done_le : done ≤ count)
      (count_pos : 0 < count) (reply_le : reply ≤ 0) (at_end : done = count → reply = 0)
      (ends : transfer state done (count - done) = (reply, last)) :
      HonestRun transfer count done state [{ offset := done, left := count - done, reply }]
        (if reply < 0 ∧ done = 0 then reply else done) last

/-- A loop of an honest host ends, at the latest when each of its transfers moved one byte. -/
theorem honestRun_of_honest {transfer : σ → Int → Nat → Int × σ} {count fuel done : Nat}
    {state : σ} (count_lt : count < 2 ^ 31) (done_le : done ≤ count)
    (started : 0 < count ∨ done = 0) (enough : count - done < fuel)
    (honest : ∀ turn ∈ transferTurns transfer count fuel done state, turn.Honest) :
    ∃ result last, transferLoop transfer count fuel done state = some (result, last) ∧
      HonestRun transfer count done state (transferTurns transfer count fuel done state) result
        last := by
  induction fuel generalizing done state with
  | zero => exact absurd enough (Nat.not_lt_zero _)
  | succ fuel ih =>
      rcases Nat.eq_zero_or_pos count with rfl | count_pos
      · obtain rfl : done = 0 := Nat.le_zero.mp done_le
        exact ⟨0, state, rfl, .idle rfl⟩
      have left_eq := sizeSub_of_le count_lt done_le
      rcases moves : transfer state done (count - done) with ⟨reply, next⟩
      rw [transferTurns_succ, if_pos count_pos, left_eq, moves] at honest
      rw [transferLoop_fuel_succ, transferTurns_succ, if_pos count_pos, if_pos count_pos, left_eq,
        moves]
      have turn_honest := honest _ List.mem_cons_self
      rw [Turn.Honest] at turn_honest
      dsimp only at turn_honest
      by_cases more : reply > 0
      · -- the transfer moved some of the bytes that are left
        have unfinished : count - done ≠ 0 := by
          intro nothing
          rw [if_pos nothing] at turn_honest
          exact Int.ne_of_gt more turn_honest
        rw [if_neg unfinished] at turn_honest
        obtain ⟨n, rfl⟩ := Int.eq_ofNat_of_zero_le (Int.le_of_lt more)
        have offset_eq : wrapInt ((done : Int) + n) = (done + n : Nat) := by
          rw [← Int.natCast_add]
          exact wrapInt_of_lt (by omega)
        simp only [if_pos more, offset_eq] at honest ⊢
        obtain ⟨result, last, returns, run⟩ := ih (by omega : done + n ≤ count)
          (.inl count_pos) (by omega) fun turn member => honest turn (List.mem_cons_of_mem _ member)
        exact ⟨result, last, returns, .moved (by omega) (by omega) (by omega) moves run⟩
      · simp only [if_neg more]
        have run := HonestRun.ended done_le count_pos (Int.not_lt.mp more) (fun at_end => by
          rw [if_pos (by omega)] at turn_honest
          exact turn_honest) moves
        refine ⟨_, next, ?_, run⟩
        by_cases failed : reply < 0
        · rw [if_pos failed]
          by_cases first : done = 0
          · rw [if_pos (by omega), if_pos ⟨failed, first⟩]
          · rw [if_neg (by omega), if_neg fun both => first both.2]
        · rw [if_neg failed, if_neg fun both => failed both.1]

/-- A whole loop makes one ocall more than it moves bytes, at most. -/
theorem exists_honestRun {transfer : σ → Int → Nat → Int × σ} {count : Nat} {state : σ}
    (count_lt : count < 2 ^ 31)
    (honest : ∀ turn ∈ transferTurns transfer count (count + 1) 0 state, turn.Honest) :
    ∃ result last, transferLoop transfer count (count + 1) 0 state = some (result, last) ∧
      HonestRun transfer count 0 state (transferTurns transfer count (count + 1) 0 state) result
        last :=
  honestRun_of_honest count_lt (Nat.zero_le count) (.inr rfl)
    (Nat.lt_succ_of_le (Nat.sub_le count 0)) honest

/-- What the turns of a loop say about its result: it is negative exactly when the first transfer
failed, and then that error, and otherwise at most `count`, and less only after a transfer that
moved none of the bytes left. -/
structure ExactResult (count : Nat) (turns : List Turn) (result : Int) : Prop where
  negative_iff : result < 0 ↔ ∃ turn ∈ turns.head?, turn.reply < 0
  error_eq : ∀ turn ∈ turns.head?, turn.reply < 0 → result = turn.reply
  result_le : result ≤ count
  short : result < count → ∃ turn ∈ turns, 0 < turn.left ∧ turn.reply ≤ 0

namespace HonestRun

variable {transfer : σ → Int → Nat → Int × σ} {count done : Nat} {state last : σ}
  {turns : List Turn} {result : Int}

/-- A run that has moved bytes before does not fail any more. -/
theorem done_le_result (run : HonestRun transfer count done state turns result last) :
    (done : Int) ≤ result ∧ (∀ turn ∈ turns.head?, done = 0 → 0 ≤ turn.reply) ∨
      done = 0 ∧ ∃ turn, turns = [turn] ∧ turn.reply = result ∧ result < 0 ∧
        turn.left = count ∧ 0 < count := by
  induction run with
  | idle nothing => exact .inl ⟨Int.le_refl 0, fun turn member => nomatch member⟩
  | @moved done n _ _ _ _ _ n_pos n_le inside moves rest ih =>
      rcases ih with ⟨le, -⟩ | ⟨zero, -⟩
      · refine .inl ⟨by omega, fun turn member _ => ?_⟩
        obtain rfl := Option.some.inj member
        exact Int.natCast_nonneg n
      · omega
  | @ended done _ _ reply done_le count_pos reply_le at_end ends =>
      by_cases failed : reply < 0 ∧ done = 0
      · rw [if_pos failed]
        refine .inr ⟨failed.2, _, rfl, rfl, failed.1, ?_, count_pos⟩
        simp [failed.2]
      · rw [if_neg failed]
        refine .inl ⟨Int.le_refl _, fun turn member zero => ?_⟩
        obtain rfl := Option.some.inj member
        exact Int.not_lt.mp fun negative => failed ⟨negative, zero⟩

theorem result_le (run : HonestRun transfer count done state turns result last) :
    result ≤ count := by
  induction run with
  | idle nothing => exact Int.natCast_nonneg count
  | moved n_pos n_le inside moves rest ih => exact ih
  | ended done_le count_pos reply_le at_end ends =>
      split_ifs <;> omega

/-- A run that moves less than `count` ends with a transfer that moved none of the bytes left. -/
theorem short (run : HonestRun transfer count done state turns result last)
    (result_lt : result < count) : ∃ turn ∈ turns, 0 < turn.left ∧ turn.reply ≤ 0 := by
  induction run with
  | idle nothing => omega
  | moved n_pos n_le inside moves rest ih =>
      obtain ⟨turn, member, stalled⟩ := ih result_lt
      exact ⟨turn, List.mem_cons_of_mem _ member, stalled⟩
  | @ended done _ _ reply done_le count_pos reply_le at_end ends =>
      refine ⟨_, List.mem_cons_self, ?_, reply_le⟩
      dsimp only
      split_ifs at result_lt with failed
      · omega
      · omega

/-- The result of a whole run. -/
theorem exactResult (run : HonestRun transfer count 0 state turns result last) :
    ExactResult count turns result := by
  refine ⟨?_, ?_, run.result_le, run.short⟩
  · rcases run.done_le_result with ⟨le, accepted⟩ | ⟨-, turn, rfl, reply_eq, negative, -⟩
    · constructor
      · intro negative
        omega
      · rintro ⟨turn, member, failed⟩
        have reply_ge := accepted turn member rfl
        omega
    · exact iff_of_true negative ⟨turn, rfl, reply_eq ▸ negative⟩
  · intro turn member failed
    rcases run.done_le_result with ⟨-, accepted⟩ | ⟨-, other, rfl, reply_eq, -⟩
    · have reply_ge := accepted turn member rfl
      omega
    · obtain rfl := Option.some.inj member
      exact reply_eq.symm

end HonestRun

/-! ## The bytes that are moved -/

/-- A host with a record of the bytes that it took from the enclave and gave to it. -/
def Untrusted.recording (side : Untrusted σ) : Untrusted (σ × Bytes) where
  ocallWriteFile256 state fd buf offset count :=
    let (n, host) := side.ocallWriteFile256 state.1 fd buf offset count
    (n, host, state.2 ++ ((buf.drop offset.toNat).take count).take n.toNat)
  ocallReadFile256 state fd count :=
    let (r, host) := side.ocallReadFile256 state.1 fd count
    (r, host, state.2 ++ r.b.take r.ret.toNat)

section Recording

variable (side : Untrusted σ) (fd : Int)

theorem erases_writeTransfer (buf : Bytes) :
    Erases Prod.fst (side.recording.writeTransfer fd buf) (side.writeTransfer fd buf) :=
  fun _ _ _ => rfl

/-- A failed transfer copies nothing. -/
theorem readTransfer_eq (state : σ × Bytes) (offset : Int) (left : Nat) :
    side.readTransfer .plain fd state offset left =
      ((side.ocallReadFile256 state.1 fd (left % 2 ^ 32)).1.ret,
        (side.ocallReadFile256 state.1 fd (left % 2 ^ 32)).2,
        state.2.take offset.toNat ++ overwrite (state.2.drop offset.toNat) 0
          ((side.ocallReadFile256 state.1 fd (left % 2 ^ 32)).1.b.take
            (side.ocallReadFile256 state.1 fd (left % 2 ^ 32)).1.ret.toNat)) := by
  rw [Untrusted.readTransfer, Untrusted.ocallReadFile]
  rcases side.ocallReadFile256 state.1 fd (left % 2 ^ 32) with ⟨⟨ret, b⟩, host⟩
  by_cases positive : ret > 0
  · simp [positive, Destination.plain]
  · simp [positive, Int.toNat_of_nonpos (Int.not_lt.mp positive)]

theorem erases_readTransfer :
    Erases (Prod.map Prod.fst id) (side.recording.readTransfer .plain fd)
      (side.readTransfer .plain fd) := by
  intro state offset left
  rw [readTransfer_eq, readTransfer_eq]
  rfl

/-- The record changes nothing about a run of the write loop. -/
theorem recording_ocallWriteFileFull (fuel : Nat) (host : σ) (record buf : Bytes) (count : Nat) :
    side.ocallWriteFileFull fuel host fd buf count =
      (side.recording.ocallWriteFileFull fuel (host, record) fd buf count).map
        (Prod.map id Prod.fst) :=
  transferLoop_erase (erases_writeTransfer side fd buf) count fuel 0 (host, record)

theorem recording_writeTurns (fuel : Nat) (host : σ) (record buf : Bytes) (count : Nat) :
    side.recording.writeTurns fuel (host, record) fd buf count =
      side.writeTurns fuel host fd buf count :=
  transferTurns_erase (erases_writeTransfer side fd buf) count fuel 0 (host, record)

theorem recording_readTurns (fuel : Nat) (host : σ) (record buf : Bytes) (count : Nat) :
    side.recording.readTurns fuel (host, record) fd buf count =
      side.readTurns fuel host fd buf count :=
  transferTurns_erase (erases_readTransfer side fd) count fuel 0 ((host, record), buf)

theorem recording_ocallReadFileFull (fuel : Nat) (host : σ) (record buf : Bytes) (count : Nat) :
    side.ocallReadFileFull fuel host fd buf count =
      (side.recording.ocallReadFileFull fuel (host, record) fd buf count).map
        (Prod.map id (Prod.map Prod.fst id)) :=
  transferLoop_erase (erases_readTransfer side fd) count fuel 0 ((host, record), buf)

end Recording

/-- What a transfer of the write loop hands over. -/
theorem record_writeTransfer {side : Untrusted σ} {fd : Int} {buf : Bytes} {state next : σ × Bytes}
    {done left : Nat} {reply : Int} (reply_le : reply.toNat ≤ 256) (reply_le' : reply.toNat ≤ left)
    (moves : side.recording.writeTransfer fd buf state done left = (reply, next)) :
    next.2 = state.2 ++ (buf.drop done).take reply.toNat := by
  have record_eq : (side.recording.writeTransfer fd buf state done left).2.2 =
      state.2 ++ ((buf.drop done).take (if left > 256 then 256 else left)).take
        (side.recording.writeTransfer fd buf state done left).1.toNat := rfl
  rw [moves] at record_eq
  rw [record_eq, List.take_take]
  congr 2
  split <;> omega

/-- The write loop hands over the bytes of the buffer in order, up to its result. -/
theorem HonestRun.record_write {side : Untrusted σ} {fd : Int} {buf : Bytes} {count done : Nat}
    {state last : σ × Bytes} {turns : List Turn} {result : Int}
    (run : HonestRun (side.recording.writeTransfer fd buf) count done state turns result last) :
    last.2 = state.2 ++ (buf.drop done).take (result.toNat - done) := by
  induction run with
  | idle nothing => simp
  | @moved done n state next last turns result n_pos n_le inside moves rest ih =>
      have result_ge : done + n ≤ result.toNat := by
        rcases rest.done_le_result with ⟨le, -⟩ | ⟨zero, -⟩ <;> omega
      rw [ih, record_writeTransfer (by omega) (by omega) moves, List.append_assoc,
        ← List.drop_drop, Int.toNat_natCast, ← List.take_add]
      congr 2
      omega
  | @ended done state last reply done_le count_pos reply_le at_end ends =>
      have result_eq : (if reply < 0 ∧ done = 0 then reply else (done : Int)).toNat = done := by
        split_ifs <;> omega
      rw [record_writeTransfer (by omega) (by omega) ends, result_eq,
        Int.toNat_of_nonpos reply_le, Nat.sub_self]

/-- What a transfer of the read loop copies. -/
theorem record_readTransfer {replies next : Replies × Bytes} {buffer after : Bytes} {fd : Int}
    {done left : Nat} {reply : Int} (reply_le : reply.toNat ≤ 256)
    (moves : Untrusted.hostile.recording.readTransfer .plain fd (replies, buffer) done left =
      (reply, next, after)) :
    ∃ chunk : Bytes, chunk.length = reply.toNat ∧ next.2 = replies.2 ++ chunk ∧
      after = buffer.take done ++ chunk ++ buffer.drop (done + reply.toNat) := by
  rw [readTransfer_eq] at moves
  obtain ⟨reply_eq, rest⟩ := Prod.mk.inj moves
  obtain ⟨next_eq, after_eq⟩ := Prod.mk.inj rest
  have payload := replies.1.reads.head.property.2
  have chunk_length : (replies.1.reads.head.val.b.take reply.toNat).length = reply.toNat := by
    rw [List.length_take, payload]
    omega
  have copied : after = buffer.take done ++ overwrite (buffer.drop done) 0
      (replies.1.reads.head.val.b.take reply.toNat) := by
    rw [← after_eq, ← reply_eq]
    rfl
  refine ⟨replies.1.reads.head.val.b.take reply.toNat, chunk_length, ?_, ?_⟩
  · rw [← next_eq, ← reply_eq]
    rfl
  · rw [copied, overwrite, chunk_length, Nat.zero_add, List.drop_drop]
    simp

/-- The read loop puts the bytes that it is given into the buffer in order, up to its result. -/
theorem HonestRun.record_read {fd : Int} {count done : Nat} {state last : (Replies × Bytes) × Bytes}
    {turns : List Turn} {result : Int}
    (run : HonestRun (Untrusted.hostile.recording.readTransfer .plain fd) count done state turns
      result last)
    (inside : count ≤ state.2.length) :
    ∃ given : Bytes, given.length = result.toNat - done ∧ last.1.2 = state.1.2 ++ given ∧
      last.2 = state.2.take done ++ given ++ state.2.drop (done + given.length) := by
  induction run with
  | idle nothing => exact ⟨[], rfl, by simp, by simp⟩
  | @moved done n state next last turns result n_pos n_le room moves rest ih =>
      have moved_le : (n : Int).toNat ≤ 256 := by omega
      obtain ⟨chunk, chunk_length, record_eq, buffer_eq⟩ := record_readTransfer moved_le moves
      rw [Int.toNat_natCast] at chunk_length buffer_eq
      have front_length : (state.2.take done ++ chunk).length = done + n := by
        rw [List.length_append, List.length_take, chunk_length]
        omega
      have length_eq : next.2.length = state.2.length := by
        rw [buffer_eq, List.length_append, front_length, List.length_drop]
        omega
      have result_ge : done + n ≤ result.toNat := by
        rcases rest.done_le_result with ⟨le, -⟩ | ⟨zero, -⟩ <;> omega
      obtain ⟨given, given_length, record_eq', last_eq⟩ := ih (by omega)
      refine ⟨chunk ++ given, ?_, ?_, ?_⟩
      · rw [List.length_append]
        omega
      · rw [record_eq', record_eq, List.append_assoc]
      · rw [last_eq, buffer_eq, List.take_left' front_length, List.length_append, chunk_length,
          ← Nat.add_assoc, ← List.drop_drop, List.drop_left' front_length, List.drop_drop,
          List.append_assoc (state.2.take done)]
  | @ended done state last reply done_le count_pos reply_le at_end ends =>
      have moved_le : reply.toNat ≤ 256 := by omega
      obtain ⟨chunk, chunk_length, record_eq, buffer_eq⟩ := record_readTransfer moved_le ends
      rw [Int.toNat_of_nonpos reply_le] at chunk_length buffer_eq
      have result_eq : (if reply < 0 ∧ done = 0 then reply else (done : Int)).toNat = done := by
        split_ifs <;> omega
      exact ⟨chunk, by rw [chunk_length, result_eq, Nat.sub_self], record_eq, by
        rw [buffer_eq, chunk_length]⟩

/-! ## Both loops -/

/-- Every reply to the write loop is one that an honest host can give. -/
def HonestWrites (replies : Replies) (fd : Int) (buf : Bytes) (count : Nat) : Prop :=
  ∀ fuel, ∀ turn ∈ Untrusted.hostile.writeTurns fuel replies fd buf count, turn.Honest

/-- Every reply to the read loop is one that an honest host can give. -/
def HonestReads (replies : Replies) (fd : Int) (buf : Bytes) (count : Nat) : Prop :=
  ∀ fuel, ∀ turn ∈ Untrusted.hostile.readTurns fuel replies fd buf count, turn.Honest

/-- `ocall_write_file_full` ends, and has handed over the start of its buffer, up to its result. -/
def WriteExact (replies : Replies) (fd : Int) (buf : Bytes) (count : Nat) : Prop :=
  ∃ fuel result later,
    Untrusted.hostile.ocallWriteFileFull fuel replies fd buf count = some (result, later) ∧
      Untrusted.hostile.recording.ocallWriteFileFull fuel (replies, []) fd buf count =
        some (result, later, buf.take result.toNat) ∧
      ExactResult count (Untrusted.hostile.writeTurns fuel replies fd buf count) result

/-- `ocall_read_file_full` ends, and has put the bytes that it was given into the start of its
buffer, as many as its result says, and left the others. -/
def ReadExact (replies : Replies) (fd : Int) (buf : Bytes) (count : Nat) : Prop :=
  ∃ fuel result later given,
    Untrusted.hostile.ocallReadFileFull fuel replies fd buf count =
        some (result, later, given ++ buf.drop result.toNat) ∧
      Untrusted.hostile.recording.ocallReadFileFull fuel (replies, []) fd buf count =
        some (result, (later, given), given ++ buf.drop result.toNat) ∧
      given.length = result.toNat ∧
      ExactResult count (Untrusted.hostile.readTurns fuel replies fd buf count) result

section Exact

variable {replies : Replies} {fd : Int} {buf : Bytes} {count : Nat}

theorem write_exact (count_lt : count < 2 ^ 31) (honest : HonestWrites replies fd buf count) :
    WriteExact replies fd buf count := by
  have turns_eq := recording_writeTurns Untrusted.hostile fd (count + 1) replies [] buf count
  have honest' := honest (count + 1)
  rw [← turns_eq] at honest'
  obtain ⟨result, ⟨later, sent⟩, returns, run⟩ := exists_honestRun count_lt honest'
  have sent_eq := run.record_write
  rw [List.nil_append, List.drop_zero, Nat.sub_zero] at sent_eq
  obtain rfl : sent = buf.take result.toNat := sent_eq
  have plain := recording_ocallWriteFileFull Untrusted.hostile fd (count + 1) replies [] buf count
  rw [Untrusted.ocallWriteFileFull.eq_def Untrusted.hostile.recording, returns] at plain
  exact ⟨count + 1, result, later, plain, returns, turns_eq ▸ run.exactResult⟩

theorem read_exact (count_lt : count < 2 ^ 31) (inside : count ≤ buf.length)
    (honest : HonestReads replies fd buf count) : ReadExact replies fd buf count := by
  have turns_eq := recording_readTurns Untrusted.hostile fd (count + 1) replies [] buf count
  have honest' := honest (count + 1)
  rw [← turns_eq] at honest'
  obtain ⟨result, ⟨⟨later, given⟩, buffer⟩, returns, run⟩ := exists_honestRun count_lt honest'
  obtain ⟨_, given_length, record_eq, buffer_eq⟩ := run.record_read inside
  obtain rfl : given = _ := record_eq
  rw [List.take_zero, List.nil_append, Nat.zero_add, given_length, Nat.sub_zero] at buffer_eq
  obtain rfl : buffer = _ := buffer_eq
  have plain := recording_ocallReadFileFull Untrusted.hostile fd (count + 1) replies [] buf count
  rw [Untrusted.ocallReadFileFull.eq_def Untrusted.hostile.recording, returns] at plain
  exact ⟨count + 1, result, later, _, plain, returns, given_length, turns_eq ▸ run.exactResult⟩

end Exact

/-- With an honest host both transfer loops are exact. -/
theorem transfer_loops_exact (replies : Replies) (fd : Int) (buf : Bytes) {count : Nat}
    (count_lt : count < 2 ^ 31) (inside : count ≤ buf.length) :
    (HonestWrites replies fd buf count → WriteExact replies fd buf count) ∧
      (HonestReads replies fd buf count → ReadExact replies fd buf count) :=
  ⟨write_exact count_lt, read_exact count_lt inside⟩

/-- The turns against a host that moves two bytes of three and then none. -/
theorem honest_once {replies : Stream' Int} {turns : Nat} (first : replies.get 0 = 2)
    (second : replies.get 1 = 0) (accepted : Accepted replies turns) :
    (turnAfter 3 replies 0 turns).Honest := by
  rcases accepted_once ⟨2, by decide⟩ first second accepted with rfl | ⟨rfl, received_eq⟩
  · rw [turnAfter_of_le (by decide) accepted (by simp [received])]
    simp [Turn.Honest, received, first]
  · rw [turnAfter_of_le (by decide) accepted (by rw [received_eq]; decide), received_eq]
    simp [Turn.Honest, second]

theorem transfer_loops_exact_once :
    WriteExact (Replies.once ⟨2, by decide⟩) 3 [1, 2, 3] 3 ∧
      ReadExact (Replies.once ⟨2, by decide⟩) 3 [1, 2, 3] 3 := by
  have loops := transfer_loops_exact (Replies.once ⟨2, by decide⟩) 3 [1, 2, 3]
    (by decide : 3 < 2 ^ 31) (by decide)
  constructor
  · refine loops.1 fun fuel turn member => ?_
    obtain ⟨turns, -, accepted, rfl⟩ := (mem_writeTurns (by decide)).mp member
    exact honest_once rfl rfl accepted
  · refine loops.2 fun fuel turn member => ?_
    obtain ⟨turns, -, accepted, rfl⟩ := (mem_readTurns (by decide)).mp member
    exact honest_once rfl rfl accepted

end TaRef
