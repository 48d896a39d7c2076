import TaRef.Operation.AeSession

/-!
# Cutting additional data

When additional data that is given in chunks is authenticated as their concatenation is.  In both
builds a call of `TEE_AEUpdateAAD` replaces what was given before: with mbedtls it restarts the
session, with wolfCrypt it overwrites the buffer.  So only the last call counts, and the others must
be empty.
-/

namespace TaRef

/-- The lengths of the chunks of some additional data. -/
structure AadCut where
  lengths : List Nat
  short : lengths.sum ≤ 16

/-- The same message under the same nonce, and the same tag when one is to be compared. -/
structure SameMessage (direction : Direction) (session other : AeSession) : Prop where
  nonce : session.iv = other.iv
  inputs : session.inputs = other.inputs
  supplied : direction = .decrypt → session.suppliedTag = other.suppliedTag

/-- Two sessions end alike on two handles: with the same result, and when they succeed with the same
message and, when they encrypt, with the same tag. -/
structure EndAlike {backend : Backend} {direction : Direction} {key : Bytes}
    (first second : FreshGcm backend direction key) (session other : AeSession) : Prop where
  verdict : session.verdict direction first.operation = other.verdict direction second.operation
  produced : session.Succeeds direction first.operation →
    other.Succeeds direction second.operation →
      session.produced direction first.operation = other.produced direction second.operation
  sealedTag : direction = .encrypt →
    session.sealedTag first.operation = other.sealedTag second.operation

/-- On new handles of a build with one key, additional data that is cut in this way counts as the
concatenation of the chunks. -/
def CryptLib.JoinsAads (build : CryptLib) (cut : AadCut) : Prop :=
  ∀ key : Bytes, key.length = 32 → ∀ (direction : Direction)
    (first second : FreshGcm build.backend direction key) (chunked joined : AeSession),
    chunked.aads.map AdditionalData.length = cut.lengths →
      (∃ aad, joined.aads = [aad] ∧ aad.bytes = chunked.header) →
        SameMessage direction chunked joined → EndAlike first second chunked joined

/-- All chunks but the last are empty. -/
def AadCut.LastOnly (cut : AadCut) : Prop := ∀ length ∈ cut.lengths.dropLast, length = 0

section Last

variable {build : CryptLib} {aes : BlockCipher Bytes Block} {key : Bytes} {direction : Direction}

/-- Sessions that differ in the additional data before the last call end alike. -/
theorem CryptLib.PartsLaws.endAlike (laws : build.PartsLaws aes) (key_length : key.length = 32)
    (first second : FreshGcm build.backend direction key) {session other : AeSession}
    (same : SameMessage direction session other) (last : session.lastAad = other.lastAad) :
    EndAlike first second session other := by
  obtain ⟨keyed, feeds, parts⟩ := laws.backend first.supported
  cases direction with
  | encrypt =>
      obtain ⟨succeeds, produced_eq, tag_eq⟩ :=
        first.sealsParts parts build.framed key_length session
      obtain ⟨succeeds', produced_eq', tag_eq'⟩ :=
        second.sealsParts parts build.framed key_length other
      rw [same.nonce, same.inputs] at produced_eq
      rw [same.nonce, same.inputs, last] at tag_eq
      exact
        { verdict := (AeSession.verdict_of_succeeds succeeds).trans
            (AeSession.verdict_of_succeeds succeeds').symm
          produced := fun _ _ => produced_eq.trans produced_eq'.symm
          sealedTag := fun _ => tag_eq.trans tag_eq'.symm }
  | decrypt =>
      obtain ⟨verdict_eq, produced_eq⟩ := first.opensParts parts build.framed key_length session
      obtain ⟨verdict_eq', produced_eq'⟩ := second.opensParts parts build.framed key_length other
      rw [same.nonce, same.inputs, same.supplied rfl, last] at verdict_eq
      rw [same.nonce, same.inputs] at produced_eq
      exact
        { verdict := verdict_eq.trans verdict_eq'.symm
          produced := fun succeeds succeeds' =>
            (produced_eq succeeds).trans (produced_eq' succeeds').symm
          sealedTag := nofun }

/-- When all chunks but the last are empty, the last one is the concatenation. -/
theorem AadCut.LastOnly.lastAad_eq {cut : AadCut} (lastOnly : cut.LastOnly) {session : AeSession}
    (lengths : session.aads.map AdditionalData.length = cut.lengths) :
    session.lastAad = session.header := by
  rw [AeSession.lastAad, AeSession.header]
  rcases List.eq_nil_or_concat' session.aads with nothing | ⟨early, aad, aads_eq⟩
  · rw [nothing]
    rfl
  · have empty : ∀ bytes ∈ early.map AdditionalData.bytes, bytes = [] := by
      intro bytes member
      obtain ⟨other, inside, rfl⟩ := List.mem_map.mp member
      rw [← List.length_eq_zero_iff, AdditionalData.bytes, Memory.length_read]
      apply lastOnly
      rw [← lengths, aads_eq, List.map_append, List.map_singleton, List.dropLast_concat]
      exact List.mem_map_of_mem inside
    rw [aads_eq, List.getLast?_concat, List.map_append, List.flatten_append,
      List.flatten_eq_nil_iff.mpr empty]
    simp

end Last

namespace AadCut

variable (cut : AadCut)

/-- Zeros in chunks. -/
def zeros : List AdditionalData :=
  cut.lengths.pmap AdditionalData.zeros fun _ member => (List.le_sum_of_mem member).trans cut.short

theorem map_length_zeros : cut.zeros.map AdditionalData.length = cut.lengths := by
  rw [zeros, List.map_pmap]
  exact (List.pmap_eq_map ..).trans (List.map_id _)

theorem map_bytes_zeros :
    cut.zeros.map AdditionalData.bytes =
      cut.lengths.map fun length => List.replicate length 0 := by
  simp only [zeros, List.map_pmap, AdditionalData.bytes_zeros, List.pmap_eq_map]

/-- A session on the empty message with zeros as additional data in chunks. -/
def chunked : AeSession :=
  .inPlace cut.zeros (by rw [map_length_zeros]; exact cut.short) [] [] (by decide)

/-- A session on the empty message with as many zeros at once. -/
def joined : AeSession :=
  .inPlace [.zeros cut.lengths.sum cut.short] cut.short [] [] (by decide)

theorem header_chunked : cut.chunked.header = List.replicate cut.lengths.sum 0 := by
  have bytes_eq : cut.chunked.header = (cut.zeros.map AdditionalData.bytes).flatten := rfl
  rw [bytes_eq, map_bytes_zeros]
  induction cut.lengths with
  | nil => rfl
  | cons length lengths ih =>
      rw [List.map_cons, List.flatten_cons, ih, List.replicate_append_replicate, List.sum_cons]

theorem lastAad_chunked :
    cut.chunked.lastAad = List.replicate (cut.lengths.getLast?.getD 0) 0 := by
  have bytes_eq : cut.chunked.lastAad =
      (cut.zeros.map AdditionalData.bytes).getLast?.getD [] := by
    rw [List.getLast?_map]
    rfl
  rw [bytes_eq, map_bytes_zeros, List.getLast?_map]
  cases cut.lengths.getLast? <;> rfl

theorem lastAad_joined : cut.joined.lastAad = List.replicate cut.lengths.sum 0 :=
  AdditionalData.bytes_zeros ..

end AadCut

theorem sum_eq_dropLast_add (lengths : List Nat) :
    lengths.sum = lengths.dropLast.sum + lengths.getLast?.getD 0 := by
  rcases List.eq_nil_or_concat' lengths with rfl | ⟨early, last, rfl⟩
  · rfl
  · simp

/-- When the chunks of zeros have the tag of their concatenation, only the last one has bytes. -/
theorem CryptLib.JoinsAads.lastOnly {cut : AadCut} {kind : CryptLib.Kind} (gcm : kind ≠ .tiny)
    (joins : (kind.build oneCipher).JoinsAads cut) : cut.LastOnly := by
  obtain ⟨keyed, feeds, laws⟩ :=
    (kind.build_partsLaws oneCipher).backend (kind.build_supports oneCipher gcm)
  rw [kind.kind_build oneCipher] at laws
  have key_length : vectorKey.length = 32 := rfl
  have sealer :=
    FreshGcm.ofZeroed (kind.build oneCipher).backend (kind.build_supports oneCipher gcm) vectorKey
  have alike := joins vectorKey key_length .encrypt sealer sealer cut.chunked cut.joined
    cut.map_length_zeros ⟨_, rfl, (cut.lastAad_joined).trans cut.header_chunked.symm⟩
    ⟨rfl, rfl, nofun⟩
  have chunked_tag :=
    (sealer.sealsWhole laws (CryptLib.framed _) key_length (rfl : cut.chunked.chunks = [])).2
  have joined_tag :=
    (sealer.sealsWhole laws (CryptLib.framed _) key_length (rfl : cut.joined.chunks = [])).2
  have same := Subtype.ext
    (chunked_tag.symm.trans ((alike.sealedTag rfl).trans joined_tag))
  rw [cut.lastAad_chunked, cut.lastAad_joined] at same
  have short := cut.short
  have split := sum_eq_dropLast_add cut.lengths
  obtain ⟨count, _⟩ := Gcm.tag_zeros_inj (hashKey_oneCipher vectorKey) Block.zero (by omega)
    (by omega) (by decide : 0 < 2 ^ 61) (by decide : 0 < 2 ^ 61) same
  exact List.sum_eq_zero_iff_forall_eq_nat.mp (by omega)

/-- A build authenticates additional data in chunks of given lengths as their concatenation,
whatever its libraries, exactly when all chunks but the last are empty. -/
theorem chunked_aads_iff (kind : CryptLib.Kind) (cut : AadCut) :
    (∀ (build : CryptLib) (aes : BlockCipher Bytes Block), build.kind = kind →
      build.PartsLaws aes → build.JoinsAads cut) ↔ kind = .tiny ∨ cut.LastOnly := by
  constructor
  · intro joins
    by_cases gcm : kind = .tiny
    · exact .inl gcm
    · have instances := joins (kind.build oneCipher) oneCipher (kind.kind_build oneCipher)
        (kind.build_partsLaws oneCipher)
      exact .inr (instances.lastOnly gcm)
  · rintro condition build aes rfl laws key key_length direction first second chunked joined
      lengths ⟨aad, joined_eq, bytes_eq⟩ same
    rcases condition with tiny | lastOnly
    · have admits := first.supported
      cases build with
      | mbedcrypt | wolfcrypt => cases tiny
      | tiny => cases admits
    · refine laws.endAlike key_length first second same ?_
      rw [lastOnly.lastAad_eq lengths, ← bytes_eq, AeSession.lastAad, joined_eq]
      rfl

/-- Two bytes, one at a time. -/
def AadCut.bytewise : AadCut where
  lengths := [1, 1]
  short := by decide

/-- One byte of additional data. -/
def AdditionalData.byte (value : UInt8) : AdditionalData where
  memory := fun _ => value
  data := some 0
  length := 1
  fits := by decide
  null := nofun

/-- A session on the empty message with two bytes as additional data, one at a time. -/
def bytewiseAads (first second : UInt8) : AeSession :=
  .inPlace [.byte first, .byte second] (by decide : 1 + 1 ≤ 16) [] [] (by decide)

theorem chunked_aads_differ :
    ¬ (CryptLib.Kind.mbedcrypt.build vectorCipher).JoinsAads .bytewise ∧
      ¬ (CryptLib.Kind.wolfcrypt.build vectorCipher).JoinsAads .bytewise ∧
      (bytewiseAads 1 0).header ≠ (bytewiseAads 2 0).header ∧
      (bytewiseAads 1 0).sealedTag
          (FreshGcm.ofZeroed (CryptLib.Kind.mbedcrypt.build vectorCipher).backend rfl
            vectorKey).operation =
        (bytewiseAads 2 0).sealedTag
          (FreshGcm.ofZeroed (CryptLib.Kind.mbedcrypt.build vectorCipher).backend rfl
            vectorKey).operation := by
  refine ⟨?_, ?_, by decide, by decide +kernel⟩
  · intro joins
    have alike := joins vectorKey rfl .encrypt (.ofZeroed _ rfl _) (.ofZeroed _ rfl _)
      AadCut.bytewise.chunked AadCut.bytewise.joined rfl ⟨_, rfl, rfl⟩ ⟨rfl, rfl, nofun⟩
    exact absurd (alike.sealedTag rfl) (by decide +kernel)
  · intro joins
    have alike := joins vectorKey rfl .encrypt (.ofZeroed _ rfl _) (.ofZeroed _ rfl _)
      AadCut.bytewise.chunked AadCut.bytewise.joined rfl ⟨_, rfl, rfl⟩ ⟨rfl, rfl, nofun⟩
    exact absurd (alike.sealedTag rfl) (by decide +kernel)

end TaRef
