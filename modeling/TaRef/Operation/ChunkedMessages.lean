import TaRef.Operation.AeSession

/-!
# Cutting a message

When a message that is given in chunks is sealed as the whole message is.  With mbedtls every chunk
that is not empty must start on a block boundary of the message.  With wolfCrypt every call seals a
message of its own under the same nonce, so all chunks but the last must be empty.
-/

namespace TaRef

/-- The lengths of the chunks of a message that one call could take. -/
structure Cut where
  chunks : List Nat
  last : Nat
  fits : (chunks ++ [last]).sum < 2 ^ 32

/-- All lengths. -/
def Cut.lengths (cut : Cut) : List Nat := cut.chunks ++ [cut.last]

/-- The same message under the same nonce and additional data, in chunks and as a whole. -/
structure CutAndWhole (cut : Cut) (chunked whole : AeSession) : Prop where
  lengths : chunked.inputs.map List.length = cut.lengths
  single : whole.chunks = []
  nonce : chunked.iv = whole.iv
  aad : ∃ aad aad', chunked.aads = [aad] ∧ whole.aads = [aad'] ∧ aad.bytes = aad'.bytes
  message : chunked.message = whole.message

/-- On new handles of a build with one key, a message that is cut in this way is sealed as the whole
message is. -/
def CryptLib.SealsAsWhole (build : CryptLib) (cut : Cut) : Prop :=
  ∀ key : Bytes, key.length = 32 → ∀ sealer sealer' : FreshGcm build.backend .encrypt key,
    ∀ chunked whole : AeSession, CutAndWhole cut chunked whole →
      chunked.Succeeds .encrypt sealer.operation ∧
        chunked.produced .encrypt sealer.operation =
          whole.produced .encrypt sealer'.operation ∧
        chunked.sealedTag sealer.operation = whole.sealedTag sealer'.operation

/-- The ways to cut a message that a build seals as the whole. -/
def CryptLib.Kind.Tolerates : CryptLib.Kind → Cut → Prop
  | .mbedcrypt, cut => Gcm.OnBoundaries 0 cut.lengths
  | .wolfcrypt, cut => ∀ length ∈ cut.chunks, length = 0
  | .tiny, _ => True

/-! ## Tolerated cuts -/

section Tolerated

variable {cut : Cut} {chunked whole : AeSession}

theorem CutAndWhole.lastAad_eq (same : CutAndWhole cut chunked whole) :
    chunked.lastAad = whole.lastAad := by
  obtain ⟨aad, aad', chunked_eq, whole_eq, bytes_eq⟩ := same.aad
  rw [AeSession.lastAad, AeSession.lastAad, chunked_eq, whole_eq]
  exact bytes_eq

theorem CutAndWhole.chunks_eq (same : CutAndWhole cut chunked whole) :
    (chunked.chunks.map Chunk.input).map List.length = cut.chunks ∧
      chunked.last.input.length = cut.last := by
  have lengths := same.lengths
  rw [chunked.inputs_eq, List.map_append, List.map_singleton, Cut.lengths] at lengths
  obtain ⟨chunks_eq, last_eq⟩ := List.append_inj' lengths rfl
  exact ⟨chunks_eq, List.singleton_inj.mp last_eq⟩

/-- The parts of a tolerated cut, and the tag of those that the build covers, are the ciphertext of
the message and its tag. -/
theorem CutAndWhole.parts_eq {kind : CryptLib.Kind} (same : CutAndWhole cut chunked whole)
    (supported : kind ≠ .tiny) (tolerated : kind.Tolerates cut) (aes : BlockCipher Bytes Block)
    (key : Bytes) (nonce : Block) (aad : Bytes) :
    (Gcm.cryptParts aes key nonce kind.scheme.position [] chunked.inputs).flatten =
        Gcm.crypt aes key nonce 0 chunked.message ∧
      Gcm.tagOfParts aes key nonce aad
          (kind.scheme.covered
            (Gcm.cryptParts aes key nonce kind.scheme.position [] chunked.inputs)) =
        Gcm.tag aes key nonce aad (Gcm.crypt aes key nonce 0 chunked.message) := by
  cases kind with
  | mbedcrypt =>
      have boundaries : Gcm.OnBoundaries 0 (chunked.inputs.map List.length) := by
        rw [same.lengths]
        exact tolerated
      have ciphertext : (Gcm.cryptParts aes key nonce Gcm.wholeBlocks [] chunked.inputs).flatten =
          Gcm.crypt aes key nonce 0 chunked.message :=
        Gcm.flatten_cryptParts aes key nonce boundaries fun _ => rfl
      refine ⟨ciphertext, ?_⟩
      have covered := Gcm.tagOfParts_eq aes key nonce aad (by
        rw [Gcm.map_length_cryptParts aes key nonce Gcm.wholeBlocks [] chunked.inputs]
        exact boundaries)
      rw [ciphertext] at covered
      exact covered
  | wolfcrypt =>
      have empty : ∀ bytes ∈ chunked.chunks.map Chunk.input, bytes = [] := by
        intro bytes member
        have length := List.mem_map_of_mem (f := List.length) member
        rw [same.chunks_eq.1] at length
        exact List.length_eq_zero_iff.mp (tolerated _ length)
      have nothing : messageOf chunked.chunks = [] := List.flatten_eq_nil_iff.mpr empty
      have message_eq : chunked.message = chunked.last.input := by
        rw [chunked.message_eq, nothing, List.nil_append]
      have parts_nothing : (Gcm.cryptParts aes key nonce CryptLib.Kind.wolfcrypt.scheme.position []
          (chunked.chunks.map Chunk.input)).flatten = [] := by
        rw [← List.length_eq_zero_iff, length_flatten_eq (Gcm.map_length_cryptParts ..),
          ← messageOf, nothing, List.length_nil]
      rw [chunked.cryptParts_inputs, List.flatten_append, parts_nothing, message_eq]
      refine ⟨List.append_nil _, ?_⟩
      simp only [CryptLib.Kind.scheme, List.getLast?_concat, Option.toList_some,
        Gcm.tagOfParts_singleton]
  | tiny => exact absurd rfl supported

/-- A tolerated cut is sealed as the whole. -/
theorem CryptLib.sealsAsWhole {build : CryptLib} {aes : BlockCipher Bytes Block}
    (laws : build.PartsLaws aes) (tolerated : build.kind.Tolerates cut) :
    build.SealsAsWhole cut := by
  intro key key_length sealer sealer' chunked whole same
  obtain ⟨keyed, feeds, parts⟩ := laws.backend sealer.supported
  have supported : build.kind ≠ .tiny := by
    intro tiny
    have admits := sealer.supported
    cases build with
    | mbedcrypt | wolfcrypt => cases tiny
    | tiny => cases admits
  obtain ⟨succeeds, produced_eq, tag_eq⟩ :=
    sealer.sealsParts parts build.framed key_length chunked
  obtain ⟨produced_eq', tag_eq'⟩ :=
    sealer'.sealsWhole parts build.framed key_length same.single
  obtain ⟨ciphertext, covered⟩ :=
    same.parts_eq supported tolerated aes key chunked.iv chunked.lastAad
  rw [ciphertext] at produced_eq
  rw [covered] at tag_eq
  rw [produced_eq, tag_eq, produced_eq', tag_eq', same.nonce, same.message, same.lastAad_eq]
  exact ⟨succeeds, rfl, rfl⟩

end Tolerated

/-! ## Other cuts -/

namespace Cut

variable (cut : Cut) (message : Bytes) (length : message.length = cut.lengths.sum)

/-- The chunks of a message but the last. -/
def parts : List Bytes := cut.chunks.splitLengths (message.take cut.chunks.sum)

/-- The last chunk of a message. -/
def rest : Bytes := message.drop cut.chunks.sum

theorem sum_lengths : cut.lengths.sum = cut.chunks.sum + cut.last := by
  simp [lengths]

theorem flatten_parts : (cut.parts message).flatten = message.take cut.chunks.sum :=
  List.flatten_splitLengths _ _ (List.length_take_le _ _)

include length in
theorem map_length_parts : (cut.parts message).map List.length = cut.chunks := by
  apply List.map_splitLengths_length
  rw [List.length_take, length, sum_lengths]
  exact Nat.le_min.mpr ⟨Nat.le_refl _, Nat.le_add_right _ _⟩

include length in
theorem length_rest : (cut.rest message).length = cut.last := by
  rw [rest, List.length_drop, length, sum_lengths, Nat.add_sub_cancel_left]

/-- A session on the chunks of a message without additional data. -/
def chunked : AeSession :=
  .inPlace [.zeros 0 (by decide)] (by decide) (cut.parts message) (cut.rest message) (by
    have fits : cut.lengths.sum < 2 ^ 32 := cut.fits
    rw [flatten_parts, rest, ← List.length_append, List.take_append_drop, length]
    exact fits)

/-- A session on the whole message without additional data. -/
def whole : AeSession :=
  .inPlace [.zeros 0 (by decide)] (by decide) [] message (by
    have fits : cut.lengths.sum < 2 ^ 32 := cut.fits
    rw [List.flatten_nil, List.length_nil, Nat.zero_add, length]
    exact fits)

theorem message_whole : (cut.whole message length).message = message :=
  AeSession.message_inPlace

theorem iv_whole : (cut.whole message length).iv = Block.zero := AeSession.iv_inPlace

theorem cutAndWhole : CutAndWhole cut (cut.chunked message length) (cut.whole message length) where
  lengths := by
    rw [chunked, AeSession.inputs_inPlace, List.map_append, cut.map_length_parts message length,
      List.map_singleton, cut.length_rest message length]
    rfl
  single := rfl
  nonce := rfl
  aad := ⟨_, _, rfl, rfl, rfl⟩
  message := by
    rw [message_whole, chunked, AeSession.message_inPlace, flatten_parts, rest,
      List.take_append_drop]

end Cut

/-- When a build seals as the whole, every ciphertext has the tag of the parts that the build covers
when it is cut. -/
theorem CryptLib.SealsAsWhole.exists_parts {cut : Cut} {kind : CryptLib.Kind} (gcm : kind ≠ .tiny)
    {aes : BlockCipher Bytes Block} (seals : (kind.build aes).SealsAsWhole cut) {key : Bytes}
    (key_length : key.length = 32) {ciphertext : Bytes}
    (length : ciphertext.length = cut.lengths.sum) :
    ∃ parts : List Bytes, parts.map List.length = cut.lengths ∧ parts.flatten = ciphertext ∧
      Gcm.tagOfParts aes key Block.zero [] (kind.scheme.covered parts) =
        Gcm.tag aes key Block.zero [] ciphertext := by
  obtain ⟨keyed, feeds, laws⟩ :=
    (kind.build_partsLaws aes).backend (kind.build_supports aes gcm)
  rw [kind.kind_build aes] at laws
  -- the message is the one that is encrypted to the ciphertext
  have message_length : (Gcm.crypt aes key Block.zero 0 ciphertext).length = cut.lengths.sum :=
    (Gcm.length_crypt ..).trans length
  have same := cut.cutAndWhole _ message_length
  have sealer := FreshGcm.ofZeroed (kind.build aes).backend (kind.build_supports aes gcm) key
  obtain ⟨_, same_produced, same_tag⟩ := seals key key_length sealer sealer _ _ same
  obtain ⟨_, produced_eq, tag_eq⟩ :=
    sealer.sealsParts laws (CryptLib.framed _) key_length (cut.chunked _ message_length)
  obtain ⟨produced_eq', tag_eq'⟩ :=
    sealer.sealsWhole laws (CryptLib.framed _) key_length same.single
  rw [cut.message_whole, cut.iv_whole, Gcm.crypt_crypt] at produced_eq' tag_eq'
  refine ⟨_, ?_, produced_eq.symm.trans (same_produced.trans produced_eq'),
    Subtype.ext (tag_eq.symm.trans (same_tag.trans tag_eq'))⟩
  rw [Gcm.map_length_cryptParts]
  exact same.lengths

/-- When the padded parts have the tag of the whole, all of them start on block boundaries. -/
theorem CryptLib.SealsAsWhole.onBoundaries {cut : Cut}
    (seals : (Kind.mbedcrypt.build oneCipher).SealsAsWhole cut) :
    Gcm.OnBoundaries 0 cut.lengths := by
  by_contra misplaced
  obtain ⟨ciphertext, length, differs⟩ :=
    Gcm.exists_tagOfParts_ne (hashKey_oneCipher vectorKey) Block.zero misplaced []
  have gcm : Kind.mbedcrypt ≠ .tiny := nofun
  have key_length : vectorKey.length = 32 := rfl
  obtain ⟨parts, lengths, flatten_eq, same⟩ := seals.exists_parts gcm key_length length
  exact differs parts lengths flatten_eq same

/-- When the last part has the tag of the whole, the others are empty. -/
theorem CryptLib.SealsAsWhole.chunks_empty {cut : Cut}
    (seals : (Kind.wolfcrypt.build oneCipher).SealsAsWhole cut) :
    ∀ length ∈ cut.chunks, length = 0 := by
  have fits : cut.lengths.sum < 2 ^ 32 := cut.fits
  have gcm : Kind.wolfcrypt ≠ .tiny := nofun
  have key_length : vectorKey.length = 32 := rfl
  obtain ⟨parts, lengths, flatten_eq, same⟩ :=
    seals.exists_parts gcm key_length (List.length_replicate (n := cut.lengths.sum) (a := 0))
  obtain ⟨early, others, rfl, _, others_eq⟩ := List.map_eq_append_iff.mp lengths
  obtain ⟨part, rest, rfl, part_length, rest_eq⟩ := List.map_eq_cons_iff.mp others_eq
  obtain rfl := List.map_eq_nil_iff.mp rest_eq
  rw [List.flatten_append, List.flatten_singleton, List.append_eq_replicate_iff] at flatten_eq
  have part_eq : part = List.replicate cut.last 0 := by rw [flatten_eq.2.2, part_length]
  have covered : Kind.wolfcrypt.scheme.covered (early ++ [part]) = [List.replicate cut.last 0] := by
    rw [← part_eq]
    exact congrArg Option.toList List.getLast?_concat
  rw [covered, Gcm.tagOfParts_singleton] at same
  have total := cut.sum_lengths
  obtain ⟨_, count⟩ := Gcm.tag_zeros_inj (hashKey_oneCipher vectorKey) Block.zero
    (by decide : 0 < 2 ^ 61) (by decide : 0 < 2 ^ 61) (by omega) (by omega) same
  exact List.sum_eq_zero_iff_forall_eq_nat.mp (by omega)

/-- A build seals a message in chunks of given lengths as the whole message, whatever its libraries,
exactly for the cuts it tolerates. -/
theorem chunked_messages_iff (kind : CryptLib.Kind) (cut : Cut) :
    (∀ (build : CryptLib) (aes : BlockCipher Bytes Block), build.kind = kind →
      build.PartsLaws aes → build.SealsAsWhole cut) ↔ kind.Tolerates cut := by
  constructor
  · intro seals
    have instances := seals (kind.build oneCipher) oneCipher (kind.kind_build oneCipher)
      (kind.build_partsLaws oneCipher)
    cases kind with
    | mbedcrypt => exact instances.onBoundaries
    | wolfcrypt => exact instances.chunks_empty
    | tiny => trivial
  · rintro tolerated build aes rfl laws
    exact CryptLib.sealsAsWhole laws tolerated

/-- Two bytes, one at a time. -/
def Cut.bytewise : Cut where
  chunks := [1]
  last := 1
  fits := by decide

theorem chunked_messages_differ :
    (CryptLib.Kind.wolfcrypt.build vectorCipher).PartsLaws vectorCipher ∧
      ¬ (CryptLib.Kind.wolfcrypt.build vectorCipher).SealsAsWhole .bytewise ∧
      (CryptLib.Kind.mbedcrypt.build vectorCipher).PartsLaws vectorCipher ∧
      ¬ (CryptLib.Kind.mbedcrypt.build vectorCipher).SealsAsWhole .bytewise := by
  refine ⟨CryptLib.Kind.build_partsLaws .., ?_, CryptLib.Kind.build_partsLaws .., ?_⟩
  · intro seals
    have same := seals vectorKey rfl (.ofZeroed _ rfl _) (.ofZeroed _ rfl _) _ _
      (Cut.bytewise.cutAndWhole [0x61, 0x62] rfl)
    exact absurd same.2.1 (by decide +kernel)
  · intro seals
    have same := seals vectorKey rfl (.ofZeroed _ rfl _) (.ofZeroed _ rfl _) _ _
      (Cut.bytewise.cutAndWhole [0x61, 0x62] rfl)
    exact absurd same.2.1 (by decide +kernel)

end TaRef
