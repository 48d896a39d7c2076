import TaRef.Storage.Host

/-!
# Edge calls to the host

The Keystone edge moves at most 256 bytes for each ocall and repeats the ocall in a loop; the SGX
edge makes one ocall for a whole buffer.  The loop is defined once over any transfer function, and
what it does against a host that decides each transfer freely is one theorem about that definition.
-/

namespace TaRef

/-- Conversion of a value to `int`. -/
def wrapInt (value : Int) : Int := Int.bmod value (2 ^ 32)

/-- `count - offset` for a `size_t` and an `int`. -/
def sizeSub (count : Nat) (offset : Int) : Nat := (((count : Int) - offset) % 2 ^ 64).toNat

/-- The loop of `ocall_read_file_full` and `ocall_write_file_full`, cut off after `fuel` transfers:
what it has returned, if it has ended, and the state that it has reached. -/
def transferRun {σ : Type*} (transfer : σ → Int → Nat → Int × σ) (count : Nat) :
    Nat → Int → σ → Option Int × σ
  | 0, _, state => (none, state)
  | fuel + 1, offset, state =>
      if count > 0 then
        let (n, next) := transfer state offset (sizeSub count offset)
        if n > 0 then transferRun transfer count fuel (wrapInt (offset + n)) next
        else if n < 0 then
          if offset = 0 then (some n, next) else (some offset, next)
        else (some offset, next)
      else (some offset, state)

/-- The loop, or `none` when `fuel` transfers have not ended it. -/
def transferLoop {σ : Type*} (transfer : σ → Int → Nat → Int × σ) (count fuel : Nat) (offset : Int)
    (state : σ) : Option (Int × σ) :=
  match transferRun transfer count fuel offset state with
  | (some result, last) => some (result, last)
  | (none, _) => none

theorem transferLoop_fuel_zero {σ : Type*} (transfer : σ → Int → Nat → Int × σ) (count : Nat)
    (offset : Int) (state : σ) : transferLoop transfer count 0 offset state = none := rfl

theorem transferLoop_fuel_succ {σ : Type*} (transfer : σ → Int → Nat → Int × σ) (count fuel : Nat)
    (offset : Int) (state : σ) :
    transferLoop transfer count (fuel + 1) offset state =
      if count > 0 then
        let (n, next) := transfer state offset (sizeSub count offset)
        if n > 0 then transferLoop transfer count fuel (wrapInt (offset + n)) next
        else if n < 0 then
          if offset = 0 then some (n, next) else some (offset, next)
        else some (offset, next)
      else some (offset, state) := by
  rw [transferLoop, transferRun]
  dsimp only
  split_ifs <;> rfl

/-- `ob256_t`. -/
structure Ob256 where
  ret : Int
  b : Bytes

namespace Keyedge

/-- `ocall_write_file256`, on the host. -/
def ocallWriteFile256 (host : Host) (fd : Int) (buf : Bytes) (count : Nat) : Int × Host :=
  host.write fd (buf.take count)

/-- `ocall_read_file256`, on the host. -/
def ocallReadFile256 (host : Host) (fd : Int) (count : Nat) : Ob256 × Host :=
  let count := if count > 256 then 256 else count
  let ((rtn, bytes), host') := host.read fd count
  ({ ret := rtn, b := bytes ++ List.replicate (256 - bytes.length) 0 }, host')

/-- `ocall_write_file`; `buf` is the memory from the pointer on. -/
def ocallWriteFile (host : Host) (fd : Int) (buf : Bytes) (count : Nat) : Int × Host :=
  let count := if count > 256 then 256 else count
  ocallWriteFile256 host fd buf count

/-- `ocall_read_file`; `buf` is the memory from the pointer on. -/
def ocallReadFile (host : Host) (fd : Int) (buf : Bytes) (count : Nat) :
    Int × Host × Bytes :=
  let (r, host') := ocallReadFile256 host fd (count % 2 ^ 32)
  if r.ret > 0 then (r.ret, host', overwrite buf 0 (r.b.take r.ret.toNat))
  else (r.ret, host', buf)

/-- `ocall_write_file_full`. -/
def ocallWriteFileFull (host : Host) (fd : Int) (buf : Bytes) (count : Nat) :
    Option (Int × Host) :=
  transferLoop (fun host offset left => ocallWriteFile host fd (buf.drop offset.toNat) left)
    count (count + 1) 0 host

/-- `ocall_read_file_full`. -/
def ocallReadFileFull (host : Host) (fd : Int) (buf : Bytes) (count : Nat) :
    Option (Int × Host × Bytes) :=
  transferLoop
    (fun state offset left =>
      let (n, host', region) := ocallReadFile state.1 fd (state.2.drop offset.toNat) left
      (n, host', state.2.take offset.toNat ++ region))
    count (count + 1) 0 (host, buf)

end Keyedge

/-! ## What the decisions of the host move -/

/-- Bytes moved by transfers of at most `limit` bytes until all of `size` is moved or a transfer
stalls. -/
def bytesMoved (limit : Nat) (decisions : Stream' Transfer) (size : Nat) : Nat :=
  match decisions.head with
  | .refuse _ => 0
  | .move amount =>
      if _ : 0 < min amount (min limit size) then
        min amount (min limit size) +
          bytesMoved limit decisions.tail (size - min amount (min limit size))
      else 0
termination_by size

/-- A decision that moves something whenever something can be moved. -/
def Transfer.Prompt : Transfer → Prop
  | .refuse _ => False
  | .move amount => 0 < amount

theorem bytesMoved_of_refuse {limit : Nat} {decisions : Stream' Transfer} {code : Fin (2 ^ 31)}
    (head : decisions.head = .refuse code) (size : Nat) : bytesMoved limit decisions size = 0 := by
  rw [bytesMoved, head]

theorem bytesMoved_of_move {limit : Nat} {decisions : Stream' Transfer} {amount : Nat}
    (head : decisions.head = .move amount) {size : Nat}
    (step_pos : 0 < min amount (min limit size)) :
    bytesMoved limit decisions size = min amount (min limit size) +
      bytesMoved limit decisions.tail (size - min amount (min limit size)) := by
  rw [bytesMoved, head]
  exact dif_pos step_pos

theorem bytesMoved_of_stall {limit : Nat} {decisions : Stream' Transfer} {amount : Nat}
    (head : decisions.head = .move amount) {size : Nat} (stall : min amount (min limit size) = 0) :
    bytesMoved limit decisions size = 0 := by
  rw [bytesMoved, head]
  exact dif_neg (by omega)

theorem bytesMoved_le (limit : Nat) (decisions : Stream' Transfer) (size : Nat) :
    bytesMoved limit decisions size ≤ size := by
  induction size using Nat.strong_induction_on generalizing decisions with
  | _ size ih =>
      cases head : decisions.head with
      | refuse code =>
          rw [bytesMoved_of_refuse head]
          exact Nat.zero_le _
      | move amount =>
          rcases Nat.eq_zero_or_pos (min amount (min limit size)) with stall | step_pos
          · rw [bytesMoved_of_stall head stall]
            exact Nat.zero_le _
          · have rest := ih (size - min amount (min limit size)) (by omega) decisions.tail
            rw [bytesMoved_of_move head step_pos]
            omega

theorem bytesMoved_of_prompt {limit : Nat} (limit_pos : 0 < limit)
    {decisions : Stream' Transfer} (prompt : decisions.All Transfer.Prompt) (size : Nat) :
    bytesMoved limit decisions size = size := by
  induction size using Nat.strong_induction_on generalizing decisions with
  | _ size ih =>
      have head_prompt := prompt 0
      cases head : decisions.head with
      | refuse code => simp [Transfer.Prompt, show decisions.get 0 = _ from head] at head_prompt
      | move amount =>
          simp only [Transfer.Prompt, show decisions.get 0 = _ from head] at head_prompt
          rcases Nat.eq_zero_or_pos size with rfl | size_pos
          · exact bytesMoved_of_stall head (by omega)
          · have rest := ih (size - min amount (min limit size)) (by omega)
              (show decisions.tail.All Transfer.Prompt from fun index => prompt (index + 1))
            rw [bytesMoved_of_move head (by omega), rest]
            omega

/-! ## The loop against a host that decides each transfer -/

/-- Return value of the loop, given the first decision and the number of bytes moved. -/
def loopResult : Transfer → Nat → Int
  | .refuse code, _ => Int.negSucc code.val
  | .move _, total => total

/-- Each transfer takes the next decision and moves at most 256 of the bytes that are left before
`target`; `reached` describes the states at each offset. -/
structure Paced {σ : Type*} (transfer : σ → Int → Nat → Int × σ) (count target : Nat)
    (decisions : σ → Stream' Transfer) (reached : Nat → σ → Prop) : Prop where
  refused : ∀ {state : σ} {offset : Nat} {code : Fin (2 ^ 31)}, reached offset state →
    offset ≤ target → (decisions state).head = .refuse code →
    (transfer state offset (count - offset)).1 = Int.negSucc code.val ∧
      reached offset (transfer state offset (count - offset)).2 ∧
      decisions (transfer state offset (count - offset)).2 = (decisions state).tail
  moves : ∀ {state : σ} {offset amount : Nat}, reached offset state → offset ≤ target →
    (decisions state).head = .move amount →
    (transfer state offset (count - offset)).1 = min amount (min 256 (target - offset) : Nat) ∧
      reached (offset + min amount (min 256 (target - offset)))
        (transfer state offset (count - offset)).2 ∧
      decisions (transfer state offset (count - offset)).2 = (decisions state).tail

/-- A paced transfer whose offset went through an `int`, so that it is negative from `2 ^ 31` bytes
on. -/
structure Metered {σ : Type*} (transfer : σ → Int → Nat → Int × σ) (count target : Nat)
    (decisions : σ → Stream' Transfer) (reached : Nat → σ → Prop) : Prop where
  refused : ∀ {state : σ} {offset : Nat} {code : Fin (2 ^ 31)}, reached offset state →
    offset ≤ target → (decisions state).head = .refuse code →
    (transfer state (wrapInt offset) (sizeSub count (wrapInt offset))).1 =
        Int.negSucc code.val ∧
      reached offset (transfer state (wrapInt offset) (sizeSub count (wrapInt offset))).2 ∧
      decisions (transfer state (wrapInt offset) (sizeSub count (wrapInt offset))).2 =
        (decisions state).tail
  moves : ∀ {state : σ} {offset amount : Nat}, reached offset state → offset ≤ target →
    (decisions state).head = .move amount →
    (transfer state (wrapInt offset) (sizeSub count (wrapInt offset))).1 =
        min amount (min 256 (target - offset) : Nat) ∧
      reached (offset + min amount (min 256 (target - offset)))
        (transfer state (wrapInt offset) (sizeSub count (wrapInt offset))).2 ∧
      decisions (transfer state (wrapInt offset) (sizeSub count (wrapInt offset))).2 =
        (decisions state).tail

theorem sizeSub_of_le {count offset : Nat} (count_lt : count < 2 ^ 31) (inside : offset ≤ count) :
    sizeSub count offset = count - offset := by
  unfold sizeSub
  omega

theorem wrapInt_negSucc (code : Fin (2 ^ 31)) :
    wrapInt (Int.negSucc code.val) = Int.negSucc code.val := by
  unfold wrapInt
  rw [Int.bmod_def]
  omega

theorem wrapInt_of_lt {value : Nat} (value_lt : value < 2 ^ 31) : wrapInt value = value := by
  unfold wrapInt
  rw [Int.bmod_def]
  omega

@[simp]
theorem wrapInt_zero : wrapInt 0 = 0 := rfl

theorem wrapInt_loopResult (first : Transfer) {total : Nat} (total_lt : total < 2 ^ 31) :
    wrapInt (loopResult first total) = loopResult first total := by
  cases first with
  | refuse code => exact wrapInt_negSucc code
  | move amount => exact wrapInt_of_lt total_lt

theorem wrapInt_eq_zero_iff {value : Nat} (value_lt : value < 2 ^ 32) :
    wrapInt value = 0 ↔ value = 0 := by
  unfold wrapInt
  rw [Int.bmod_def]
  omega

theorem wrapInt_wrapInt_add (offset amount : Int) :
    wrapInt (wrapInt offset + amount) = wrapInt (offset + amount) :=
  Int.bmod_add_bmod

/-- What is left to request after a wrapped offset, as an `unsigned int`. -/
theorem sizeSub_wrapInt_mod {count offset : Nat} (count_lt : count < 2 ^ 32)
    (inside : offset ≤ count) : sizeSub count (wrapInt offset) % 2 ^ 32 = count - offset := by
  unfold sizeSub wrapInt
  rw [Int.bmod_def]
  omega

/-- A metered loop ends.  It moves the bytes that the decisions move, and its result is their number
as an `int`, unless the first decision is a refusal. -/
theorem transferLoop_metered {σ : Type*} {transfer : σ → Int → Nat → Int × σ} {count target : Nat}
    {decisions : σ → Stream' Transfer} {reached : Nat → σ → Prop}
    (metered : Metered transfer count target decisions reached) (count_pos : 0 < count)
    (target_lt : target < 2 ^ 32) (fuel : Nat) {offset : Nat} {state : σ}
    (enough : target - offset < fuel) (offset_le : offset ≤ target)
    (initial : reached offset state) :
    ∃ final taken,
      transferLoop transfer count fuel (wrapInt offset) state =
        some (wrapInt (if offset = 0 then
            loopResult (decisions state).head (bytesMoved 256 (decisions state) target)
          else (offset + bytesMoved 256 (decisions state) (target - offset) : Nat)), final) ∧
      reached (offset + bytesMoved 256 (decisions state) (target - offset)) final ∧
      decisions final = (decisions state).drop taken := by
  induction fuel generalizing offset state with
  | zero => omega
  | succ fuel ih =>
      have start_iff := wrapInt_eq_zero_iff (show offset < 2 ^ 32 by omega)
      rw [transferLoop_fuel_succ, if_pos count_pos]
      cases head : (decisions state).head with
      | refuse code =>
          obtain ⟨result_eq, kept, rest⟩ := metered.refused initial offset_le head
          rw [bytesMoved_of_refuse head, bytesMoved_of_refuse head, Nat.add_zero]
          refine ⟨_, 1, ?_, kept, rest⟩
          simp only [result_eq, loopResult, gt_iff_lt, Int.negSucc_not_pos, Int.negSucc_lt_zero,
            if_true, if_false, start_iff]
          split
          · rw [wrapInt_negSucc]
          · rfl
      | move amount =>
          obtain ⟨result_eq, kept, rest⟩ := metered.moves initial offset_le head
          set step := min amount (min 256 (target - offset)) with step_eq
          rcases Nat.eq_zero_or_pos step with step_zero | step_pos
          · rw [step_zero] at result_eq kept
            have none_moved : bytesMoved 256 (decisions state) (target - offset) = 0 :=
              bytesMoved_of_stall head step_zero
            rw [none_moved]
            refine ⟨_, 1, ?_, kept, rest⟩
            have result_zero :
                (transfer state (wrapInt offset) (sizeSub count (wrapInt offset))).1 = 0 :=
              result_eq
            simp only [result_zero, gt_iff_lt, lt_self_iff_false, if_false, loopResult,
              Nat.add_zero, Option.some.injEq, Prod.mk.injEq, and_true]
            by_cases first : offset = 0
            · rw [first, Nat.sub_zero] at none_moved
              rw [if_pos first, first, none_moved]
            · rw [if_neg first]
          · have next_le : offset + step ≤ target := by omega
            have moved_eq : bytesMoved 256 (decisions state) (target - offset) =
                step + bytesMoved 256 (decisions state).tail (target - (offset + step)) := by
              rw [bytesMoved_of_move head step_pos, Nat.sub_sub]
            obtain ⟨final, taken, run, holds, later⟩ := ih (by omega) next_le kept
            rw [rest] at run holds later
            rw [moved_eq, ← Nat.add_assoc]
            refine ⟨final, taken + 1, ?_, holds, ?_⟩
            · have positive : (0 : Int) < step := by exact_mod_cast step_pos
              have next_ne : offset + step ≠ 0 := by omega
              simp only [result_eq, gt_iff_lt, positive, if_true, wrapInt_wrapInt_add]
              rw [show (offset : Int) + (step : Nat) = ((offset + step : Nat) : Int) by
                  push_cast; rfl, run, if_neg next_ne]
              rcases Nat.eq_zero_or_pos offset with rfl | offset_pos
              · rw [Nat.sub_zero, Nat.zero_add] at moved_eq
                simp only [if_true, loopResult, moved_eq, Nat.zero_add]
              · rw [if_neg (Nat.ne_of_gt offset_pos)]
            · rw [later, Stream'.drop_tail']

/-- Below `2 ^ 31` bytes the offset of a paced transfer is the number of bytes moved. -/
theorem Paced.metered {σ : Type*} {transfer : σ → Int → Nat → Int × σ} {count target : Nat}
    {decisions : σ → Stream' Transfer} {reached : Nat → σ → Prop}
    (paced : Paced transfer count target decisions reached) (count_lt : count < 2 ^ 31)
    (target_le : target ≤ count) : Metered transfer count target decisions reached where
  refused := by
    intro state offset code holds offset_le head
    rw [wrapInt_of_lt (by omega), sizeSub_of_le count_lt (offset_le.trans target_le)]
    exact paced.refused holds offset_le head
  moves := by
    intro state offset amount holds offset_le head
    rw [wrapInt_of_lt (by omega), sizeSub_of_le count_lt (offset_le.trans target_le)]
    exact paced.moves holds offset_le head

/-- A paced loop ends.  It moves the bytes that the decisions move, and its result is their number
unless the first decision is a refusal. -/
theorem transferLoop_paced {σ : Type*} {transfer : σ → Int → Nat → Int × σ} {count target : Nat}
    {decisions : σ → Stream' Transfer} {reached : Nat → σ → Prop}
    (paced : Paced transfer count target decisions reached) (count_pos : 0 < count)
    (count_lt : count < 2 ^ 31) (target_le : target ≤ count) (fuel : Nat) {offset : Nat} {state : σ}
    (enough : target - offset < fuel) (offset_le : offset ≤ target)
    (initial : reached offset state) :
    ∃ final taken,
      transferLoop transfer count fuel offset state =
        some (if offset = 0 then
            loopResult (decisions state).head (bytesMoved 256 (decisions state) target)
          else (offset + bytesMoved 256 (decisions state) (target - offset) : Nat), final) ∧
      reached (offset + bytesMoved 256 (decisions state) (target - offset)) final ∧
      decisions final = (decisions state).drop taken := by
  obtain ⟨final, taken, run, holds, later⟩ := transferLoop_metered
    (paced.metered count_lt target_le) count_pos (by omega) fuel enough offset_le initial
  refine ⟨final, taken, ?_, holds, later⟩
  have moved_le := bytesMoved_le 256 (decisions state) target
  have left_le := bytesMoved_le 256 (decisions state) (target - offset)
  rw [← wrapInt_of_lt (show offset < 2 ^ 31 by omega), run]
  congr 2
  split
  · exact wrapInt_loopResult _ (by omega)
  · exact wrapInt_of_lt (by omega)

namespace Keyedge

open Host

theorem ocallWriteFile_refused {host : Host} {fd : Int} {file : OpenFile}
    {code : Fin (2 ^ 31)}
    (opened : host.openFile? fd = some file) (writable : file.writable = true)
    (head : host.transfers.head = .refuse code) (buf : Bytes) (count : Nat) :
    ocallWriteFile host fd buf count = (Int.negSucc code.val, host.nextTransfer) := by
  simp [ocallWriteFile, ocallWriteFile256, Host.write, opened, writable, head]

theorem ocallWriteFile_moves {host : Host} {fd : Int} {file : OpenFile} {amount : Nat}
    (opened : host.openFile? fd = some file) (writable : file.writable = true)
    (head : host.transfers.head = .move amount) (buf : Bytes) :
    ocallWriteFile host fd buf buf.length =
      (((min amount (min 256 buf.length) : Nat) : Int),
        host.nextTransfer.deliver fd (buf.take (min amount (min 256 buf.length)))) := by
  have capped : (if buf.length > 256 then 256 else buf.length) = min 256 buf.length := by
    split <;> omega
  simp only [ocallWriteFile, ocallWriteFile256, Host.write, opened, writable, head, capped,
    if_true, List.take_take, List.length_take]
  rw [show min (min amount (min 256 buf.length)) buf.length =
    min amount (min 256 buf.length) by omega]

theorem paced_write {host : Host} {fd : Int} {file : OpenFile} (data : Bytes)
    (opened : host.openFile? fd = some file) (writable : file.writable = true) :
    Paced (fun host offset left => ocallWriteFile host fd (data.drop offset.toNat) left)
      data.length data.length Host.transfers
      (fun offset state => ∃ taken, state = (host.skip taken).deliver fd (data.take offset)) where
  refused := by
    rintro _ offset code ⟨taken, rfl⟩ offset_le head
    have opened_now := openFile?_deliver_self ((openFile?_skip host taken fd).trans opened)
      (data.take offset)
    rw [ocallWriteFile_refused opened_now writable head]
    refine ⟨rfl, ⟨taken + 1, ?_⟩, rfl⟩
    rw [nextTransfer_deliver, nextTransfer_skip]
  moves := by
    rintro _ offset amount ⟨taken, rfl⟩ offset_le head
    have opened_now := openFile?_deliver_self ((openFile?_skip host taken fd).trans opened)
      (data.take offset)
    have moved := ocallWriteFile_moves opened_now writable head (data.drop offset)
    rw [List.length_drop] at moved
    simp only [Int.toNat_natCast]
    rw [moved]
    refine ⟨rfl, ⟨taken + 1, ?_⟩, ?_⟩
    · rw [nextTransfer_deliver, nextTransfer_skip, deliver_deliver, ← List.take_add]
    · simp [nextTransfer]

/-- What the write loop does to a file open for writing. -/
theorem ocallWriteFileFull_spec {host : Host} {fd : Int} {file : OpenFile} (data : Bytes)
    (opened : host.openFile? fd = some file) (writable : file.writable = true)
    (data_pos : 0 < data.length) (data_lt : data.length < 2 ^ 31) :
    ∃ taken, ocallWriteFileFull host fd data data.length =
      some (loopResult host.transfers.head (bytesMoved 256 host.transfers data.length),
        (host.skip taken).deliver fd (data.take (bytesMoved 256 host.transfers data.length))) := by
  obtain ⟨_, _, run, ⟨taken, rfl⟩, _⟩ :=
    transferLoop_paced (paced_write data opened writable) data_pos data_lt le_rfl
      (data.length + 1) (Nat.lt_succ_self _) (Nat.zero_le _)
      (show ∃ taken, host = (host.skip taken).deliver fd (data.take 0) from ⟨0, by simp⟩)
  exact ⟨taken, by simpa [ocallWriteFileFull] using run⟩

theorem ocallReadFile_refused {host : Host} {fd : Int} {file : OpenFile}
    {code : Fin (2 ^ 31)}
    (opened : host.openFile? fd = some file) (readable : file.readable = true)
    (head : host.transfers.head = .refuse code) (buf : Bytes) (count : Nat) :
    ocallReadFile host fd buf count = (Int.negSucc code.val, host.nextTransfer, buf) := by
  simp only [ocallReadFile, ocallReadFile256, Host.read, opened, readable, head, if_true]
  exact if_neg (by simp)

theorem ocallReadFile_moves {host : Host} {fd : Int} {file : OpenFile} {amount : Nat}
    (opened : host.openFile? fd = some file) (readable : file.readable = true)
    (head : host.transfers.head = .move amount) (buf : Bytes) (count : Nat) :
    let bytes := (host.remaining file).take (min amount (min 256 (count % 2 ^ 32)))
    ocallReadFile host fd buf count =
      ((bytes.length : Int), host.nextTransfer.advance fd bytes.length,
        overwrite buf 0 bytes) := by
  intro bytes
  have capped : min (if count % 2 ^ 32 > 256 then 256 else count % 2 ^ 32) amount =
      min amount (min 256 (count % 2 ^ 32)) := by
    split <;> omega
  simp only [ocallReadFile, ocallReadFile256, Host.read, opened, readable, head, if_true, capped]
  have bytes_eq : (host.remaining file).take (min amount (min 256 (count % 2 ^ 32))) = bytes := rfl
  rw [bytes_eq]
  clear_value bytes
  rcases Nat.eq_zero_or_pos bytes.length with empty | nonempty
  · obtain rfl := List.length_eq_zero_iff.mp empty
    rw [overwrite_nil (Nat.zero_le _)]
    exact if_neg (by simp)
  · have positive : (bytes.length : Int) > 0 := by exact_mod_cast nonempty
    rw [if_pos positive, Int.toNat_natCast, List.take_left' rfl]

/-- Storing the next bytes of a file behind those that a buffer holds. -/
theorem take_append_overwrite_drop (source buf : Bytes) {offset step : Nat}
    (inside : offset + step ≤ source.length) :
    (source.take offset ++ buf.drop offset).take offset ++
        overwrite ((source.take offset ++ buf.drop offset).drop offset) 0
          ((source.drop offset).take step) =
      source.take (offset + step) ++ buf.drop (offset + step) := by
  have front : (source.take offset).length = offset := by
    rw [List.length_take]
    omega
  have taken : ((source.drop offset).take step).length = step := by
    rw [List.length_take, List.length_drop]
    omega
  simp only [List.take_left' front, List.drop_left' front, overwrite, List.take_zero,
    Nat.zero_sub, List.replicate_zero, List.nil_append, Nat.zero_add, List.drop_drop, taken]
  rw [List.take_add, List.append_assoc]

/-- The transfer of `ocall_read_file_full`. -/
def readTransfer (fd : Int) (state : Host × Bytes) (offset : Int) (left : Nat) :
    Int × Host × Bytes :=
  let (n, host', region) := ocallReadFile state.1 fd (state.2.drop offset.toNat) left
  (n, host', state.2.take offset.toNat ++ region)

theorem ocallReadFileFull_eq (host : Host) (fd : Int) (buf : Bytes) (count : Nat) :
    ocallReadFileFull host fd buf count =
      transferLoop (readTransfer fd) count (count + 1) 0 (host, buf) := rfl

theorem readTransfer_eq {fd offset n : Int} {now host : Host} {held region : Bytes} {left : Nat}
    (read : ocallReadFile now fd (held.drop offset.toNat) left = (n, host, region)) :
    readTransfer fd (now, held) offset left = (n, host, held.take offset.toNat ++ region) := by
  rw [readTransfer, read]

/-- A read loop on a file open for reading is metered; below `2 ^ 31` bytes the buffer holds what
was read. -/
theorem metered_read {host : Host} {fd : Int} {file : OpenFile} {count limit : Nat} (buf : Bytes)
    (opened : host.openFile? fd = some file) (readable : file.readable = true)
    (count_lt : count < 2 ^ 32) (limit_le : limit ≤ 2 ^ 31) :
    Metered (readTransfer fd) count (min count (host.remaining file).length)
      (fun state => state.1.transfers)
      (fun offset state => (∃ taken, state.1 = (host.skip taken).advance fd offset) ∧
        (offset < limit →
          state.2 = (host.remaining file).take offset ++ buf.drop offset)) where
  refused := by
    rintro ⟨now, held⟩ offset code ⟨⟨taken, now_eq⟩, held_eq⟩ offset_le head
    obtain rfl : now = (host.skip taken).advance fd offset := now_eq
    have opened_now := openFile?_advance_self ((openFile?_skip host taken fd).trans opened)
      offset
    rw [readTransfer_eq (ocallReadFile_refused opened_now readable head _ _)]
    refine ⟨rfl, ⟨⟨taken + 1, ?_⟩, fun small => ?_⟩, rfl⟩
    · rw [nextTransfer_advance, nextTransfer_skip]
    · rw [List.take_append_drop]
      exact held_eq small
  moves := by
    rintro ⟨now, held⟩ offset amount ⟨⟨taken, now_eq⟩, held_eq⟩ offset_le head
    obtain rfl : now = (host.skip taken).advance fd offset := now_eq
    have opened_now := openFile?_advance_self ((openFile?_skip host taken fd).trans opened)
      offset
    have left_now : ((host.skip taken).advance fd offset).remaining
        { file with offset := file.offset + offset } = (host.remaining file).drop offset := by
      simp [remaining, content, skip]
    rw [readTransfer_eq (ocallReadFile_moves opened_now readable head _ _),
      sizeSub_wrapInt_mod count_lt (by omega), left_now]
    set step := min amount (min 256 (min count (host.remaining file).length - offset)) with step_eq
    have amounts :
        ((host.remaining file).drop offset).take (min amount (min 256 (count - offset))) =
        ((host.remaining file).drop offset).take step := by
      rw [List.take_eq_take_iff, List.length_drop]
      omega
    have taken_length : (((host.remaining file).drop offset).take step).length = step := by
      rw [List.length_take, List.length_drop]
      omega
    rw [amounts, taken_length]
    refine ⟨rfl, ⟨⟨taken + 1, ?_⟩, fun small => ?_⟩, ?_⟩
    · rw [nextTransfer_advance, nextTransfer_skip, advance_advance]
    · obtain rfl : held = (host.remaining file).take offset ++ buf.drop offset :=
        held_eq (by omega)
      rw [wrapInt_of_lt (show offset < 2 ^ 31 by omega), Int.toNat_natCast]
      exact take_append_overwrite_drop _ _ (by omega)
    · simp [nextTransfer]

/-- What the read loop does to a file open for reading, for every size of a `uint32_t`. -/
theorem ocallReadFileFull_outcome {host : Host} {fd : Int} {file : OpenFile} {count : Nat}
    (buf : Bytes) (opened : host.openFile? fd = some file) (readable : file.readable = true)
    (count_pos : 0 < count) (count_lt : count < 2 ^ 32) {limit total : Nat}
    (limit_le : limit ≤ 2 ^ 31)
    (total_eq : bytesMoved 256 host.transfers (min count (host.remaining file).length) = total) :
    ∃ taken read, ocallReadFileFull host fd buf count =
        some (wrapInt (loopResult host.transfers.head total),
          (host.skip taken).advance fd total, read) ∧
      (total < limit → read = (host.remaining file).take total ++ buf.drop total) := by
  obtain ⟨⟨_, read⟩, _, run, ⟨⟨taken, rfl⟩, read_eq⟩, _⟩ :=
    transferLoop_metered (metered_read buf opened readable count_lt limit_le) count_pos (by omega)
      (count + 1) (Nat.lt_succ_of_le (Nat.min_le_left _ _)) (Nat.zero_le _)
      (show (∃ taken, (host, buf).1 = (host.skip taken).advance fd 0) ∧
        (0 < limit → (host, buf).2 = (host.remaining file).take 0 ++ buf.drop 0) from
          ⟨⟨0, by simp⟩, by simp⟩)
  subst total_eq
  refine ⟨taken, read, ?_, fun small => ?_⟩
  · rw [ocallReadFileFull_eq]
    simpa only [Nat.cast_zero, wrapInt_zero, if_true, Nat.zero_add, Nat.sub_zero] using run
  · simpa using read_eq (by simpa using small)

/-- What the read loop does to a file open for reading. -/
theorem ocallReadFileFull_spec {host : Host} {fd : Int} {file : OpenFile} {count : Nat}
    (buf : Bytes) (opened : host.openFile? fd = some file) (readable : file.readable = true)
    (count_pos : 0 < count) (count_lt : count < 2 ^ 31) {total : Nat}
    (total_eq : bytesMoved 256 host.transfers (min count (host.remaining file).length) = total) :
    ∃ taken, ocallReadFileFull host fd buf count =
      some (loopResult host.transfers.head total, (host.skip taken).advance fd total,
        (host.remaining file).take total ++ buf.drop total) := by
  have total_le := bytesMoved_le 256 host.transfers (min count (host.remaining file).length)
  obtain ⟨taken, read, run, read_eq⟩ :=
    ocallReadFileFull_outcome buf opened readable count_pos (by omega) le_rfl total_eq
  rw [wrapInt_loopResult _ (by omega), read_eq (by omega)] at run
  exact ⟨taken, run⟩

theorem ocallWriteFileFull_zero (host : Host) (fd : Int) (buf : Bytes) :
    ocallWriteFileFull host fd buf 0 = some (0, host) := rfl

theorem ocallReadFileFull_zero (host : Host) (fd : Int) (buf : Bytes) :
    ocallReadFileFull host fd buf 0 = some (0, host, buf) := rfl

end Keyedge
end TaRef
