import TaRef.Printf.Characters

/-!
# Formatting into a buffer

A call that formats into a buffer stores the beginning of the characters that the same call hands to
a function of its caller, as much as the buffer holds, with a NUL behind them.  Nothing else is
touched, whatever the format and the arguments are.
-/

namespace TaRef

namespace Frame

variable {frame : Frame} {bytes : Bytes}

@[simp]
theorem store_nil : frame.store [] = frame := by
  funext index
  simp [store]

/-- One more byte behind a string. -/
theorem store_append_singleton (byte : UInt8) :
    frame.store (bytes ++ [byte]) = Function.update (frame.store bytes) bytes.length byte := by
  funext index
  by_cases at_end : index = (bytes.length : Int)
  case pos =>
    subst at_end
    rw [Function.update_self, store_of_lt (by simp)]
    simp
  case neg =>
    rw [Function.update_of_ne at_end]
    rcases Int.lt_or_le index 0 with negative | nonnegative
    · simp [store, Int.not_le.mpr negative]
    · obtain ⟨place, rfl⟩ := Int.eq_ofNat_of_zero_le nonnegative
      simp only [store, nonnegative, if_true, Int.toNat_natCast, List.getD_eq_getElem?_getD]
      rcases Nat.lt_or_ge place bytes.length with inside | past
      · rw [List.getElem?_append_left inside]
      · rw [List.getElem?_eq_none (by simp; omega), List.getElem?_eq_none past]

/-- The byte at the end of a string is overwritten. -/
theorem update_store (last byte : UInt8) :
    Function.update (frame.store (bytes ++ [last])) bytes.length byte =
      frame.store (bytes ++ [byte]) := by
  rw [store_append_singleton, store_append_singleton, Function.update_idem]

end Frame

namespace Printf

/-! ## The buffer -/

section Store

variable {frame : Frame} {count : UInt64}

/-- Characters stored from the start of a buffer. -/
theorem puts_outBuffer {text : Bytes} (text_lt : text.length < 2 ^ 64) :
    (Output.puts (outBuffer count) ⟨frame, 0⟩ text).idx.toNat = text.length ∧
      (Output.puts (outBuffer count) ⟨frame, 0⟩ text).buffer =
        frame.store (text.take count.toNat) := by
  induction text using List.reverseRecOn with
  | nil => simp
  | append_singleton text character ih =>
      rw [List.length_append, List.length_singleton] at text_lt
      obtain ⟨idx_eq, buffer_eq⟩ := ih (by omega)
      rw [Output.puts_append, Output.puts_cons, Output.puts_nil]
      simp only [Output.put, outBuffer, UInt64.lt_iff_toNat_lt, idx_eq, buffer_eq]
      refine ⟨?_, ?_⟩
      · rw [UInt64.toNat_add, idx_eq, List.length_append, List.length_singleton]
        exact Nat.mod_eq_of_lt text_lt
      · split_ifs with room
        · rw [List.take_of_length_le (by omega : text.length ≤ count.toNat),
            List.take_of_length_le (by simpa using room), Frame.store_append_singleton]
        · rw [List.take_append_of_le_length (by omega)]

/-- The NUL behind the characters, or in the place of the last one that the buffer holds. -/
theorem outBuffer_nul {text : Bytes} {idx : UInt64} (idx_eq : idx.toNat = text.length) :
    outBuffer count 0 (if idx < count then idx else count - 1)
        (frame.store (text.take count.toNat)) =
      if count = 0 then frame else frame.store (text.take (count.toNat - 1) ++ [0]) := by
  by_cases zero : count = 0
  case pos => simp [zero, outBuffer, UInt64.lt_iff_toNat_lt]
  have positive : 0 < count.toNat := by
    rw [Nat.pos_iff_ne_zero, ne_eq, ← UInt64.toNat_zero, UInt64.toNat_inj]
    exact zero
  rw [if_neg zero]
  by_cases room : idx < count
  case pos =>
    have room' := UInt64.lt_iff_toNat_lt.mp room
    rw [if_pos room, outBuffer, if_pos room, idx_eq,
      List.take_of_length_le (by omega : text.length ≤ count.toNat),
      List.take_of_length_le (by omega : text.length ≤ count.toNat - 1),
      Frame.store_append_singleton]
  case neg =>
    rw [UInt64.lt_iff_toNat_lt, idx_eq] at room
    have last_eq : (count - 1).toNat = count.toNat - 1 := by
      have one_le : (1 : UInt64) ≤ count := UInt64.le_iff_toNat_le.mpr positive
      rw [UInt64.toNat_sub_of_le _ _ one_le, UInt64.toNat_one]
    have last_lt : count - 1 < count := by
      rw [UInt64.lt_iff_toNat_lt, last_eq]
      omega
    have inside : count.toNat - 1 < text.length := by omega
    have cut : text.take count.toNat =
        text.take (count.toNat - 1) ++ [text[count.toNat - 1]] := by
      rw [List.take_append_getElem inside, Nat.sub_add_cancel positive]
    have cut_length : (text.take (count.toNat - 1)).length = count.toNat - 1 := by
      rw [List.length_take]
      omega
    have overwritten : Function.update
        (frame.store (text.take (count.toNat - 1) ++ [text[count.toNat - 1]]))
        (text.take (count.toNat - 1)).length 0 =
          frame.store (text.take (count.toNat - 1) ++ [0]) := Frame.update_store _ _
    rw [cut_length] at overwritten
    rw [if_neg (by rw [UInt64.lt_iff_toNat_lt, idx_eq]; exact room), outBuffer, if_pos last_lt,
      last_eq, cut, overwritten]

end Store

/-! ## Calls without a restart -/

section Characters

/-- The characters of what a directive stands for. -/
def Emission.characters : Emission → Bytes
  | .text characters => characters
  | .restart => []

theorem foldl_emit_of_texts {σ : Type} {out : OutFct σ} {output : Output σ}
    {emitted : List Emission} (texts : Emission.restart ∉ emitted) :
    emitted.foldl (Output.emit out) output =
      output.puts out (emitted.flatMap Emission.characters) := by
  induction emitted generalizing output with
  | nil => rfl
  | cons emission emitted ih =>
      rw [List.mem_cons, not_or] at texts
      rw [List.foldl_cons, ih texts.2, List.flatMap_cons, Output.puts_append]
      cases emission with
      | text characters => rfl
      | restart => exact absurd rfl texts.1

/-- A function that collects the characters it is called with. -/
def collect (character : UInt8) (sent : Bytes) : Bytes := sent ++ [character]

theorem puts_collect (output : Output Bytes) (characters : Bytes) :
    (output.puts (outFct collect) characters).buffer = output.buffer ++ characters := by
  induction characters generalizing output with
  | nil => simp
  | cons character characters ih =>
      rw [Output.puts_cons, ih]
      simp [Output.put, outFct, collect]

end Characters

section Restarts

variable {δ : Type} (doubles : Doubles δ) (charType : CharType)

/-- No argument of a call is above the limit of `_ftoa`. -/
def Moderate (va : List (Argument δ)) : Prop :=
  ∀ value, Argument.double value ∈ va → ¬ Exceeds doubles value

variable {doubles charType}

theorem Moderate.of_subset {va rest : List (Argument δ)} (moderate : Moderate doubles va)
    (subset : rest ⊆ va) : Moderate doubles rest :=
  fun value member => moderate value (subset member)

theorem bind_eq_ok {ε α β : Type} {value : Except ε α} {next : α → Except ε β} {result : β} :
    value >>= next = .ok result ↔ ∃ middle, value = .ok middle ∧ next middle = .ok result := by
  cases value with
  | error fault => simp [bind, Except.bind]
  | ok middle => simp [bind, Except.bind]

section Rest

variable {va : List (Argument δ)}

theorem vaArgInt_subset {fetched : UInt32 × List (Argument δ)}
    (fetch : vaArgInt va = .ok fetched) : fetched.2 ⊆ va := by
  unfold vaArgInt at fetch
  split at fetch <;> cases fetch
  exact List.subset_cons_self _ _

theorem vaArgLong_subset {fetched : UInt64 × List (Argument δ)}
    (fetch : vaArgLong va = .ok fetched) : fetched.2 ⊆ va := by
  unfold vaArgLong at fetch
  split at fetch <;> cases fetch
  exact List.subset_cons_self _ _

theorem vaArgString_subset {fetched : Bytes × List (Argument δ)}
    (fetch : vaArgString va = .ok fetched) : fetched.2 ⊆ va := by
  unfold vaArgString at fetch
  split at fetch <;> cases fetch
  exact List.subset_cons_self _ _

theorem vaArgPointer_subset {fetched : UInt64 × List (Argument δ)}
    (fetch : vaArgPointer va = .ok fetched) : fetched.2 ⊆ va := by
  unfold vaArgPointer at fetch
  split at fetch <;> cases fetch
  exact List.subset_cons_self _ _

theorem vaArgDouble_cons {fetched : δ × List (Argument δ)} (fetch : vaArgDouble va = .ok fetched) :
    va = .double fetched.1 :: fetched.2 := by
  unfold vaArgDouble at fetch
  split at fetch <;> cases fetch
  rfl

theorem readWidth_subset {flags flags' : Flags} {format format' : Bytes} {width : UInt32}
    {rest : List (Argument δ)}
    (read : readWidth flags format va = .ok (flags', width, format', rest)) : rest ⊆ va := by
  unfold readWidth at read
  split at read
  · cases read
    exact List.Subset.refl _
  · split_ifs at read with digit star
    · cases read
      exact List.Subset.refl _
    · obtain ⟨⟨w, left⟩, fetch, read⟩ := bind_eq_ok.mp read
      simp only [pure, Except.pure, Except.ok.injEq, Prod.mk.injEq] at read
      obtain ⟨-, -, -, rfl⟩ := read
      exact vaArgInt_subset fetch
    · cases read
      exact List.Subset.refl _

theorem readPrecision_subset {flags flags' : Flags} {format format' : Bytes} {precision : UInt32}
    {rest : List (Argument δ)}
    (read : readPrecision flags format va = .ok (flags', precision, format', rest)) :
    rest ⊆ va := by
  unfold readPrecision at read
  split_ifs at read with point
  · dsimp only at read
    split at read
    · cases read
      exact List.Subset.refl _
    · split_ifs at read with digit star
      · cases read
        exact List.Subset.refl _
      · obtain ⟨⟨prec, left⟩, fetch, read⟩ := bind_eq_ok.mp read
        simp only [pure, Except.pure, Except.ok.injEq, Prod.mk.injEq] at read
        obtain ⟨-, -, -, rfl⟩ := read
        exact vaArgInt_subset fetch
      · cases read
        exact List.Subset.refl _
  · cases read
    exact List.Subset.refl _

theorem readDirective_subset {format : Bytes} {directive : Directive δ}
    (read : readDirective format va = .ok directive) : directive.va ⊆ va := by
  obtain ⟨⟨flags, width, format, rest⟩, width_read, read⟩ := bind_eq_ok.mp read
  obtain ⟨⟨flags, precision, format, rest⟩, precision_read, read⟩ := bind_eq_ok.mp read
  dsimp only at read
  split at read
  · cases read
  · cases read
    exact List.Subset.trans (readPrecision_subset precision_read) (readWidth_subset width_read)

theorem integerText_subset {directive : Directive δ} {result : List (Argument δ) × Bytes}
    (integer : integerText charType directive = .ok result) : result.1 ⊆ directive.va := by
  unfold integerText at integer
  dsimp only at integer
  by_cases long : (integerFlags directive.specifier directive.flags).longLong = true ∨
      (integerFlags directive.specifier directive.flags).long = true
  · rw [if_pos long] at integer
    obtain ⟨⟨argument, rest⟩, fetch, integer⟩ := bind_eq_ok.mp integer
    dsimp only at integer
    split at integer <;> cases integer <;> exact vaArgLong_subset fetch
  · rw [if_neg long] at integer
    obtain ⟨⟨argument, rest⟩, fetch, integer⟩ := bind_eq_ok.mp integer
    dsimp only at integer
    split at integer <;> cases integer <;> exact vaArgInt_subset fetch

/-- A directive leaves arguments of the call. -/
theorem emissionOf_subset {directive : Directive δ} {result : List (Argument δ) × Emission}
    (emits : emissionOf doubles charType directive = .ok result) : result.1 ⊆ directive.va := by
  unfold emissionOf at emits
  split_ifs at emits
  · obtain ⟨⟨rest, text⟩, integer, emits⟩ := bind_eq_ok.mp emits
    cases emits
    exact integerText_subset integer
  · obtain ⟨⟨value, rest⟩, fetch, emits⟩ := bind_eq_ok.mp emits
    obtain ⟨emission, -, emits⟩ := bind_eq_ok.mp emits
    cases emits
    rw [vaArgDouble_cons fetch]
    exact List.subset_cons_self _ _
  · obtain ⟨⟨character, rest⟩, fetch, emits⟩ := bind_eq_ok.mp emits
    cases emits
    exact vaArgInt_subset fetch
  · obtain ⟨⟨p, rest⟩, fetch, emits⟩ := bind_eq_ok.mp emits
    cases emits
    exact vaArgString_subset fetch
  · obtain ⟨⟨address, rest⟩, fetch, emits⟩ := bind_eq_ok.mp emits
    cases emits
    exact vaArgPointer_subset fetch
  · cases emits
    exact List.Subset.refl _

/-- A directive stands for a restart only where it takes a value above the limit. -/
theorem emissionOf_ne_restart {directive : Directive δ} (moderate : Moderate doubles directive.va)
    {result : List (Argument δ) × Emission}
    (emits : emissionOf doubles charType directive = .ok result) : result.2 ≠ .restart := by
  unfold emissionOf at emits
  split_ifs at emits
  · obtain ⟨⟨rest, text⟩, -, emits⟩ := bind_eq_ok.mp emits
    cases emits
    exact Emission.noConfusion
  · obtain ⟨⟨value, rest⟩, fetch, emits⟩ := bind_eq_ok.mp emits
    obtain ⟨emission, double, emits⟩ := bind_eq_ok.mp emits
    cases emits
    have member : Argument.double value ∈ directive.va := by
      rw [vaArgDouble_cons fetch]
      exact List.mem_cons_self
    obtain ⟨buf, -, double⟩ := bind_eq_ok.mp double
    dsimp only at double
    rw [if_neg (moderate value member)] at double
    cases double
    exact Emission.noConfusion
  · obtain ⟨⟨character, rest⟩, -, emits⟩ := bind_eq_ok.mp emits
    cases emits
    exact Emission.noConfusion
  · obtain ⟨⟨p, rest⟩, -, emits⟩ := bind_eq_ok.mp emits
    cases emits
    exact Emission.noConfusion
  · obtain ⟨⟨address, rest⟩, -, emits⟩ := bind_eq_ok.mp emits
    cases emits
    exact Emission.noConfusion
  · cases emits
    exact Emission.noConfusion

/-- A call with moderate arguments does not restart. -/
theorem restart_notMem_emissions {rounds : Nat} {format : Bytes} {emitted : List Emission}
    (moderate : Moderate doubles va)
    (emits : emissions doubles charType rounds format va = .ok emitted) :
    Emission.restart ∉ emitted := by
  induction rounds generalizing format va emitted with
  | zero =>
      cases emits
      exact List.not_mem_nil
  | succ rounds ih =>
      cases format with
      | nil =>
          cases emits
          exact List.not_mem_nil
      | cons character format =>
          rw [emissions] at emits
          split at emits
          · obtain ⟨later, later_emits, emits⟩ := bind_eq_ok.mp emits
            cases emits
            rw [List.mem_cons, not_or]
            exact ⟨Emission.noConfusion, ih moderate later_emits⟩
          · obtain ⟨directive, read, emits⟩ := bind_eq_ok.mp emits
            obtain ⟨⟨rest, emission⟩, emission_emits, emits⟩ := bind_eq_ok.mp emits
            obtain ⟨later, later_emits, emits⟩ := bind_eq_ok.mp emits
            cases emits
            have moderate' := moderate.of_subset (readDirective_subset read)
            rw [List.mem_cons, not_or]
            exact ⟨(emissionOf_ne_restart moderate' emission_emits).symm,
              ih (moderate'.of_subset (emissionOf_subset emission_emits)) later_emits⟩

end Rest

end Restarts

/-! ## What is stored -/

section Stored

variable {δ : Type} {doubles : Doubles δ} {charType : CharType} {format : Bytes}
  {va : List (Argument δ)}

theorem vsnprintf_some (frame : Frame) (count : UInt64) :
    vsnprintf doubles charType (some frame) count format va =
      (vsnprintfWith doubles charType (outBuffer count) frame count format va).map fun result =>
        (result.1, some result.2) := by
  rw [vsnprintf]
  cases vsnprintfWith doubles charType (outBuffer count) frame count format va <;> rfl

theorem vsnprintf_none (count : UInt64) :
    vsnprintf doubles charType none count format va =
      (vsnprintfWith doubles charType outNull () count format va).map fun result =>
        (result.1, none) := by
  rw [vsnprintf]
  cases vsnprintfWith doubles charType outNull () count format va <;> rfl

/-- The index behind the characters of a call, as an `int`. -/
theorem puts_retval {σ : Type} (out : OutFct σ) (buffer : σ) (text : Bytes) :
    wrapInt (Output.puts out ⟨buffer, 0⟩ text).idx.toNat = wrapInt text.length := by
  have narrower : (text.length : Int) % (2 ^ 64 : Nat) % (2 ^ 32 : Nat) =
      text.length % (2 ^ 32 : Nat) := Int.emod_emod_of_dvd _ (by decide)
  rw [Output.puts_idx, UInt64.zero_add, UInt64.toNat_ofNat', wrapInt, wrapInt, Int.natCast_mod,
    ← Int.emod_bmod, narrower, Int.emod_bmod]

/-- What `fctprintf` hands on for a format whose emissions are known. -/
theorem fctprintf_of_emitted {emissions : List Emission}
    (emits : emitted doubles charType format va = .ok emissions)
    (texts : Emission.restart ∉ emissions) :
    fctprintf doubles charType collect [] format va =
      .ok (wrapInt (emissions.flatMap Emission.characters).length,
        emissions.flatMap Emission.characters ++ [0]) := by
  rw [fctprintf, vsnprintfWith_eq, emits]
  simp only [Except.map, foldl_emit_of_texts texts, puts_retval, puts_collect, outFct, collect,
    List.nil_append]

/-- Where `fctprintf` is undefined, so is `vsnprintf`. -/
theorem vsnprintf_of_fault {fault : Fault}
    (undefined : fctprintf doubles charType collect [] format va = .error fault) (frame : Frame)
    (count : UInt64) :
    vsnprintf doubles charType (some frame) count format va = .error fault := by
  rw [fctprintf, vsnprintfWith_eq] at undefined
  rw [vsnprintf_some, vsnprintfWith_eq]
  rcases emits : emitted doubles charType format va with fault' | emitted
  · rw [emits] at undefined
    cases undefined
    rfl
  · rw [emits] at undefined
    cases undefined

/-- What a call with moderate arguments makes of the characters that `fctprintf` hands on. -/
theorem vsnprintf_of_sends (moderate : Moderate doubles va) {retval : Int} {sent : Bytes}
    (sends : fctprintf doubles charType collect [] format va = .ok (retval, sent))
    (sent_le : sent.length ≤ 2 ^ 64) (frame : Frame) (count : UInt64) :
    ∃ text, sent = text ++ [0] ∧ retval = wrapInt text.length ∧
      vsnprintf doubles charType (some frame) count format va =
        .ok (retval, some (if count = 0 then frame
          else frame.store (text.take (count.toNat - 1) ++ [0]))) ∧
      vsnprintf doubles charType none count format va = .ok (retval, none) := by
  rw [vsnprintf_some, vsnprintf_none, vsnprintfWith_eq, vsnprintfWith_eq]
  rcases emits : emitted doubles charType format va with fault | emitted
  · rw [fctprintf, vsnprintfWith_eq, emits] at sends
    cases sends
  have texts : Emission.restart ∉ emitted := restart_notMem_emissions moderate emits
  rw [fctprintf_of_emitted emits texts, Except.ok.injEq, Prod.mk.injEq] at sends
  obtain ⟨rfl, rfl⟩ := sends
  rw [List.length_append, List.length_singleton] at sent_le
  have stored := @puts_outBuffer frame count (emitted.flatMap Emission.characters) (by omega)
  refine ⟨_, rfl, rfl, ?_, ?_⟩
  · simp only [Except.map, foldl_emit_of_texts texts, puts_retval, stored.2,
      outBuffer_nul stored.1]
  · simp only [Except.map, foldl_emit_of_texts texts, puts_retval]

/-- A call stores the beginning of the characters that `fctprintf` hands on for the same arguments,
as much as the buffer holds, and a NUL behind them.  It returns the number of all of them, with and
without a buffer, and where the one call is undefined so is the other. -/
theorem vsnprintf_stores (moderate : Moderate doubles va) (frame : Frame) (count : UInt64) :
    (∀ fault, fctprintf doubles charType collect [] format va = .error fault →
      vsnprintf doubles charType (some frame) count format va = .error fault) ∧
    ∀ retval sent, fctprintf doubles charType collect [] format va = .ok (retval, sent) →
      sent.length ≤ 2 ^ 64 → ∃ text, sent = text ++ [0] ∧ retval = wrapInt text.length ∧
        vsnprintf doubles charType (some frame) count format va =
          .ok (retval, some (if count = 0 then frame
            else frame.store (text.take (count.toNat - 1) ++ [0]))) ∧
        vsnprintf doubles charType none count format va = .ok (retval, none) :=
  ⟨fun _ undefined => vsnprintf_of_fault undefined frame count,
    fun _ _ sends sent_le => vsnprintf_of_sends moderate sends sent_le frame count⟩

/-- The hexadecimal digits of 255 in a buffer of two bytes. -/
theorem vsnprintf_stores_hex :
    vsnprintf Doubles.exact .signed (some fun _ => 7) 2 [37, 120] [.int 255] =
      .ok (2, some (Frame.store (fun _ => 7) [102, 0])) := by
  have moderate : Moderate Doubles.exact [Argument.int 255] := fun value member => by
    simp at member
  obtain ⟨text, sent_eq, -, stores, -⟩ := (vsnprintf_stores moderate (fun _ => 7) 2).2 2
    [102, 102, 0] (by decide +kernel : fctprintf Doubles.exact .signed collect [] [37, 120]
      [.int 255] = .ok (2, [102, 102, 0])) (by decide)
  obtain rfl : text = [102, 102] := List.append_cancel_right sent_eq.symm
  exact stores

/-- Characters that go to a buffer of `count` bytes change nothing else. -/
theorem puts_outside {count : UInt64} {index : Int}
    (outside : index < 0 ∨ (count.toNat : Int) ≤ index) (output : Output Frame)
    (characters : Bytes) :
    (output.puts (outBuffer count) characters).buffer index = output.buffer index := by
  induction characters generalizing output with
  | nil => rfl
  | cons character characters ih =>
      rw [Output.puts_cons, ih]
      simp only [Output.put, outBuffer]
      split_ifs with room
      · rw [UInt64.lt_iff_toNat_lt] at room
        exact Function.update_of_ne (by omega) _ _
      · rfl

theorem foldl_emit_outside {count : UInt64} {index : Int}
    (outside : index < 0 ∨ (count.toNat : Int) ≤ index) (output : Output Frame)
    (emitted : List Emission) :
    (emitted.foldl (Output.emit (outBuffer count)) output).buffer index = output.buffer index := by
  induction emitted generalizing output with
  | nil => rfl
  | cons emission emitted ih =>
      rw [List.foldl_cons, ih]
      cases emission with
      | text characters => exact puts_outside outside output characters
      | restart => rfl

/-- Whatever the format and the arguments are, a call that returns has changed no byte outside the
buffer, and a buffer that is not empty holds a NUL. -/
theorem vsnprintf_contained {frame after : Frame} {count : UInt64} {retval : Int}
    (returns : vsnprintf doubles charType (some frame) count format va =
      .ok (retval, some after)) :
    (∀ index : Int, index < 0 ∨ (count.toNat : Int) ≤ index → after index = frame index) ∧
      (0 < count → ∃ index : Nat, index < count.toNat ∧ after index = 0) := by
  rw [vsnprintf_some, vsnprintfWith_eq] at returns
  rcases emits : emitted doubles charType format va with fault | emitted
  · rw [emits] at returns
    cases returns
  rw [emits] at returns
  simp only [Except.map, Except.ok.injEq, Prod.mk.injEq, Option.some.injEq] at returns
  obtain ⟨-, rfl⟩ := returns
  set output := emitted.foldl (Output.emit (outBuffer count)) ⟨frame, 0⟩ with output_eq
  set last := if output.idx < count then output.idx else count - 1 with last_eq
  constructor
  · intro index outside
    rw [outBuffer]
    split_ifs with room
    · rw [UInt64.lt_iff_toNat_lt] at room
      rw [Function.update_of_ne (by omega), output_eq, foldl_emit_outside outside]
    · rw [output_eq, foldl_emit_outside outside]
  · intro positive
    have last_lt : last < count := by
      rw [last_eq]
      split_ifs with room
      · exact room
      · rw [UInt64.lt_iff_toNat_lt] at positive ⊢
        have one_le : (1 : UInt64) ≤ count := UInt64.le_iff_toNat_le.mpr positive
        rw [UInt64.toNat_sub_of_le _ _ one_le, UInt64.toNat_one]
        exact Nat.sub_one_lt_of_lt positive
    refine ⟨last.toNat, UInt64.lt_iff_toNat_lt.mp last_lt, ?_⟩
    rw [outBuffer, if_pos last_lt, Function.update_self]

/-- One character in a buffer of two bytes. -/
theorem vsnprintf_contained_one :
    ∃ after, vsnprintf Doubles.exact .signed (some fun _ => 7) 2 [97] [] = .ok (1, some after) ∧
      after (-1) = 7 ∧ after 2 = 7 := by
  have summary : (vsnprintf Doubles.exact .signed (some fun _ => 7) 2 [97] []).map
      (fun result => (result.1, result.2.isSome)) = .ok (1, true) := by decide +kernel
  rcases returns : vsnprintf Doubles.exact .signed (some fun _ => 7) 2 [97] [] with
    fault | ⟨retval, - | after⟩
  · rw [returns] at summary
    cases summary
  · rw [returns] at summary
    cases summary
  · rw [returns] at summary
    cases summary
    have outside := (vsnprintf_contained returns).1
    exact ⟨after, rfl, outside (-1) (.inl (by decide)), outside 2 (.inr (by decide))⟩

end Stored

end Printf
end TaRef
