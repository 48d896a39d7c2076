import TaRef.Programs.AsymmetricKey
import TaRef.Programs.SymmetricKey
import TaRef.SystemTime

/-!
# The test application

`main` runs the tests one after the other.  Each of them finds the storage, the supplies and the
clocks as the tests before it left them.
-/

namespace TaRef

/-- What the next readings of both clocks give. -/
structure Clock where
  reeTimes : Stream' TeeTime
  cycles : Stream' UInt64

/-- What all tests work on. -/
abbrev TestState (lib : Mbedtls) (backend : Backend) := Enclave lib × Supplies backend × Clock

namespace Program

variable {lib : Mbedtls} {backend : Backend}

/-- A program on the supplies only. -/
def onSupplies {α : Type} (program : Program (Supplies backend) α) :
    Program (TestState lib backend) α := fun process =>
  let (tee, supplies, clock) := process.state
  (program ⟨supplies, process.printed⟩).map fun result =>
    (result.1, ⟨(tee, result.2.state, clock), result.2.printed⟩)

/-- `TEE_GetREETime` -/
def getReeTime {τ : Type} : Program (Enclave lib × τ × Clock) TeeTime :=
  call fun (tee, rest, clock) =>
    (.returned clock.reeTimes.head, tee, rest, { clock with reeTimes := clock.reeTimes.tail })

/-- `TEE_GetSystemTime` -/
def getSystemTime {τ : Type} (platform : Platform) : Program (Enclave lib × τ × Clock) TeeTime :=
  call fun (tee, rest, clock) =>
    (.returned (platform.teeGetSystemTime clock.cycles.head), tee, rest,
      { clock with cycles := clock.cycles.tail })

/-- `gp_random_test` -/
def gpRandomTest (stdio : Stdio) : Program (Supplies backend) Unit := do
  let rbuf ← generateRandom 16
  dumpLine stdio "@random: " rbuf

/-- `gp_ree_time_test` -/
def gpReeTimeTest (stdio : Stdio) : Program (TestState lib backend) Unit := do
  let time ← getReeTime
  teePrintf stdio (asciiText "@GP REE time %u sec %u millis\n") [.int time.seconds, .int time.millis]

/-- `gp_trusted_time_test` -/
def gpTrustedTimeTest (platform : Platform) (stdio : Stdio) :
    Program (TestState lib backend) Unit := do
  let time ← getSystemTime platform
  teePrintf stdio (asciiText "@GP System time %u sec %u millis\n")
    [.int time.seconds, .int time.millis]

/-- `main`; `frames` are the memories that the tests find, and `data` is `test.dat`. -/
def main (platform : Platform) (stdio : Stdio) (verbose : Bool) (frames : Nat → Memory)
    (data : Bytes) : Program (TestState lib backend) Int := do
  onSupplies (gpRandomTest stdio)
  gpReeTimeTest stdio
  gpTrustedTimeTest platform stdio
  gpSecureStorageTest platform stdio verbose data
  onSupplies (gpMessageDigestTest stdio verbose (frames 0) data)
  onSupplies (gpSymmetricKeyEncVerifyTest stdio verbose (frames 1) data)
  onSupplies (gpSymmetricKeyGcmVerifyTest stdio verbose (frames 2) data)
  onSupplies (gpAsymmetricKeySignTest stdio verbose (frames 3) data)
  return 0

/-! ## The first tests -/

section Parts

variable {α : Type} {program : Program (Supplies backend) α} {tee : Enclave lib}
  {supplies : Supplies backend} {clock : Clock} {printed : Bytes}

theorem returns_onSupplies {value : α} {after : Supplies backend} {printed' : Bytes}
    (returns : program.Returns ⟨supplies, printed⟩ value ⟨after, printed'⟩) :
    (onSupplies program).Returns ⟨(tee, supplies, clock), printed⟩ value
      ⟨(tee, after, clock), printed'⟩ := by
  have run : program ⟨supplies, printed⟩ = .ok (value, ⟨after, printed'⟩) := returns
  simp only [Returns, StateT.run, onSupplies, run, Except.map]

theorem stops_onSupplies {halt : Halt} (stops : program.run ⟨supplies, printed⟩ = .error halt) :
    (onSupplies program).run ⟨(tee, supplies, clock), printed⟩ = .error halt := by
  have run : program ⟨supplies, printed⟩ = .error halt := stops
  simp only [StateT.run, onSupplies, run, Except.map]

theorem returns_gpRandomTest (ample : supplies.Ample) (stdio : Stdio) :
    (gpRandomTest stdio).Returns ⟨supplies, printed⟩ ()
      ⟨supplies.afterRandom, printed ++ hexLine "@random: " (supplies.random 16)⟩ :=
  returns_bind (returns_generateRandom ample printed 16)
    (returns_dumpLine stdio (by decide +kernel) (by decide) _ _)

end Parts

/-- The parts of the line for a time. -/
def timeParts (label : String)
    (plain : ∀ ch ∈ asciiText label, ch ≠ Printf.ascii '%' ∧ ch ≠ 0) (time : TeeTime) :
    List Printf.Part :=
  [.text (asciiText label) plain, .unsigned time.seconds,
    .text (asciiText " sec ") (by decide +kernel), .unsigned time.millis,
    .text (asciiText " millis\n") (by decide +kernel)]

/-- How a time is printed behind a label. -/
def timeText (label : String) (time : TeeTime) : Bytes :=
  asciiText label ++ (Printf.decimalText time.seconds.toNat ++ (asciiText " sec " ++
    (Printf.decimalText time.millis.toNat ++ asciiText " millis\n")))

theorem returns_timeLine {σ : Type} (stdio : Stdio) {label : String}
    (plain : ∀ ch ∈ asciiText label, ch ≠ Printf.ascii '%' ∧ ch ≠ 0)
    (short : (asciiText label).length < 200) (time : TeeTime) (process : Process σ) :
    (teePrintf stdio (asciiText label ++ asciiText "%u sec %u millis\n")
        [.int time.seconds, .int time.millis]).Returns process ()
      { process with printed := process.printed ++ timeText label time } := by
  have format_eq : (timeParts label plain time).flatMap Printf.Part.format =
      asciiText label ++ asciiText "%u sec %u millis\n" := by
    rw [timeParts, List.flatMap_cons]
    rfl
  have text_eq : (timeParts label plain time).flatMap Printf.Part.characters =
      timeText label time := by
    simp only [timeParts, List.flatMap_cons, List.flatMap_nil, List.append_nil,
      Printf.Part.characters, timeText]
  have length_lt : (timeText label time).length < 256 := by
    have seconds_le := Printf.length_decimalText_le (Printf.short_toNat time.seconds)
    have millis_le := Printf.length_decimalText_le (Printf.short_toNat time.millis)
    have sec_length : (asciiText " sec ").length = 5 := rfl
    have millis_length : (asciiText " millis\n").length = 8 := rfl
    simp only [timeText, List.length_append]
    omega
  have prints := @returns_parts σ stdio (timeParts label plain time) (text_eq ▸ length_lt) process
  rwa [text_eq, format_eq] at prints

/-! ## The application -/

section Main

variable {build : CryptLib} (aes : BlockCipher Bytes Block) (hash : Bytes → Bytes)

/-- What the test of GCM leaves. -/
def afterGcmTest (supplies : Supplies build.backend) : Supplies build.backend :=
  if build.backend.supportsGcm then supplies.afterKeyTest
  else supplies.afterObject.afterRandom.afterOperation

/-- What the test of GCM prints. -/
def gcmText (supplies : Supplies build.backend) (data : Bytes) : Bytes :=
  if build.backend.supportsGcm then
    gcmVerifyText aes (supplies.generated teeTypeAes).publicKey (nonce supplies) data
  else gcmRefusedText

/-- What `main` prints. -/
def transcript (platform : Platform) (supplies : Supplies build.backend) (clock : Clock)
    (data : Bytes) : Bytes :=
  let keyed := supplies.afterRandom.afterOperation
  let signing := afterGcmTest keyed.afterKeyTest
  hexLine "@random: " (supplies.random 16) ++
    timeText "@GP REE time " clock.reeTimes.head ++
    timeText "@GP System time " (platform.teeGetSystemTime clock.cycles.head) ++
    storageText data ++
    hexLine "hash: " (hash data) ++
    encVerifyText aes (keyed.generated teeTypeAes).publicKey (nonce keyed) data ++
    gcmText aes keyed.afterKeyTest data ++
    signText (hash data) (build.signature signing.seed (hash data))

variable {aes hash}

theorem afterGcmTest_ample {supplies : Supplies build.backend} (ample : supplies.Ample) :
    (afterGcmTest supplies).Ample := by
  unfold afterGcmTest
  split_ifs
  · exact ample.afterKeyTest
  · exact ample.afterObject.afterRandom.afterOperation

theorem returns_gcmTest (laws : build.PartsLaws aes) (makes : build.MakesKeys) {verbose : Bool}
    (reports : build.backend.supportsGcm = true ∨ verbose = true)
    {supplies : Supplies build.backend} (ample : supplies.Ample) {data : Bytes}
    (data_length : data.length = 256) (stdio : Stdio) (frame : Memory) (printed : Bytes) :
    (gpSymmetricKeyGcmVerifyTest stdio verbose frame data).Returns ⟨supplies, printed⟩ ()
      ⟨afterGcmTest supplies, printed ++ gcmText aes supplies data⟩ := by
  unfold afterGcmTest gcmText
  by_cases supported : build.backend.supportsGcm = true
  · rw [if_pos supported, if_pos supported]
    exact returns_gpSymmetricKeyGcmVerifyTest laws supported makes ample data_length stdio verbose
      frame printed
  · obtain rfl : verbose = true := reports.resolve_left supported
    rw [if_neg supported, if_neg supported]
    exact returns_gpSymmetricKeyGcmVerifyTest_unsupported (Bool.eq_false_iff.mpr supported) ample
      data stdio frame printed

variable (storage : lib.CbcLaws aes) (platform : Platform) (stdio : Stdio) (verbose : Bool)
  (cbc : build.CbcLaws aes) (parts : build.PartsLaws aes) (makes : build.MakesKeys)
  {absorbs : build.backend.sha3.Context → Bytes → Prop}
  (hashes : build.backend.sha3.Laws hash absorbs) (pairs : build.PairLaws)

include storage cbc parts makes hashes pairs

/-- On a host that grants everything, and with memory and random bytes for all tests, `main` prints
what its tests promise and returns, unless the build has no AES-GCM and reports no errors. -/
theorem main_completes_iff {tee : Enclave lib} (obliging : tee.Obliging platform)
    {supplies : Supplies build.backend} (ample : supplies.Ample) (clock : Clock) {data : Bytes}
    (data_length : data.length = 256) (frames : Nat → Memory) (printed : Bytes) :
    (∃ after, (main platform stdio verbose frames data).Returns ⟨(tee, supplies, clock), printed⟩ 0
        ⟨after, printed ++ transcript aes hash platform supplies clock data⟩) ↔
      build.backend.supportsGcm = true ∨ verbose = true := by
  let clock₁ : Clock := { clock with reeTimes := clock.reeTimes.tail }
  let clock₂ : Clock := { clock₁ with cycles := clock.cycles.tail }
  let keyed := supplies.afterRandom.afterOperation
  have keyed_ample : keyed.Ample := ample.afterRandom.afterOperation
  have draws := @returns_onSupplies lib _ _ _ tee supplies clock _ _ _ _
    (@returns_gpRandomTest _ supplies printed ample stdio)
  set printed₁ := printed ++ hexLine "@random: " (supplies.random 16) with printed₁_eq
  have ree : (gpReeTimeTest stdio).Returns ⟨(tee, supplies.afterRandom, clock), printed₁⟩ ()
      ⟨(tee, supplies.afterRandom, clock₁),
        printed₁ ++ timeText "@GP REE time " clock.reeTimes.head⟩ :=
    returns_bind (returns_call rfl) (@returns_timeLine _ stdio "@GP REE time " (by decide +kernel)
      (by decide) _ _)
  set printed₂ := printed₁ ++ timeText "@GP REE time " clock.reeTimes.head with printed₂_eq
  have trusted : (gpTrustedTimeTest platform stdio).Returns
      ⟨(tee, supplies.afterRandom, clock₁), printed₂⟩ ()
      ⟨(tee, supplies.afterRandom, clock₂), printed₂ ++
        timeText "@GP System time " (platform.teeGetSystemTime clock.cycles.head)⟩ :=
    returns_bind (returns_call rfl) (@returns_timeLine _ stdio "@GP System time "
      (by decide +kernel) (by decide) _ _)
  set printed₃ := printed₂ ++
    timeText "@GP System time " (platform.teeGetSystemTime clock.cycles.head) with printed₃_eq
  obtain ⟨stored, stores, -⟩ := @returns_gpSecureStorageTest lib _ aes storage platform stdio
    verbose tee obliging data data_length (supplies.afterRandom, clock₂) printed₃
  set printed₄ := printed₃ ++ storageText data with printed₄_eq
  have digests := @returns_onSupplies lib _ _ _ stored _ clock₂ _ _ _ _
    (returns_gpMessageDigestTest ample.afterRandom hashes stdio verbose (frames 0) data_length
      printed₄)
  set printed₅ := printed₄ ++ hexLine "hash: " (hash data) with printed₅_eq
  have encrypts := @returns_onSupplies lib _ _ _ stored _ clock₂ _ _ _ _
    (returns_gpSymmetricKeyEncVerifyTest cbc keyed_ample data_length stdio verbose (frames 1)
      printed₅)
  set printed₆ := printed₅ ++
    encVerifyText aes (keyed.generated teeTypeAes).publicKey (nonce keyed) data with printed₆_eq
  constructor
  · rintro ⟨after, returns⟩
    by_contra silent
    rw [not_or, Bool.not_eq_true, Bool.not_eq_true] at silent
    obtain ⟨unsupported, rfl⟩ := silent
    have stops := @stops_onSupplies lib _ _ _ stored _ clock₂ _ _
      (stops_gpSymmetricKeyGcmVerifyTest_unsupported unsupported keyed_ample.afterKeyTest data stdio
        (frames 2) printed₆)
    have halts : (main platform stdio false frames data).run ⟨(tee, supplies, clock), printed⟩ =
        .error .undefined := by
      unfold main
      refine stops_later draws (stops_later ree (stops_later trusted (stops_later stores ?_)))
      exact stops_later digests (stops_later encrypts (stops_bind _ stops))
    rw [Returns, halts] at returns
    cases returns
  · intro reports
    have seals := @returns_onSupplies lib _ _ _ stored _ clock₂ _ _ _ _
      (returns_gcmTest parts makes reports keyed_ample.afterKeyTest data_length stdio (frames 2)
        printed₆)
    have signs := @returns_onSupplies lib _ _ _ stored _ clock₂ _ _ _ _
      (returns_gpAsymmetricKeySignTest hashes pairs (afterGcmTest_ample keyed_ample.afterKeyTest)
        data_length stdio verbose (frames 3) (printed₆ ++ gcmText aes keyed.afterKeyTest data))
    refine ⟨(stored, afterSignTest (afterGcmTest keyed.afterKeyTest), clock₂), ?_⟩
    unfold main
    refine returns_bind draws (returns_bind ree (returns_bind trusted (returns_bind stores
      (returns_bind digests (returns_bind encrypts (returns_bind seals (returns_bind signs ?_)))))))
    simp only [transcript, ← List.append_assoc]
    exact returns_pure _ _

end Main

/-- AES-256 under the key of the published example, which is that of the storage: the blocks of
`test.dat` in a chain that begins with zeros. -/
def storedPairs : List (Block × Block) :=
  [(blockOf 0x000102030405060708090a0b0c0d0e0f, blockOf 0x5a6e045708fb7196f02e553d02c3a692),
    (blockOf 0x4a7f16441cee6781e8374f261edeb88d, blockOf 0xc77147ebd5121de8d0fae7762423b6bf),
    (blockOf 0xe75065c8f1373bcff8d3cd5d080e9890, blockOf 0x78e2e0038b691b8bedfc32116811da59),
    (blockOf 0x48d3d230bf5c2dbcd5c5082a542ce466, blockOf 0x7c8ab8ef66c293ca63ff37a35ec1c2ba),
    (blockOf 0x3ccbfaac2287d58d2bb67de8128c8cf5, blockOf 0x0e062c9ee27de295b156818ba0a0843a),
    (blockOf 0x5e577ecdb628b4c2e90fdbd0fcfdda65, blockOf 0xd7d46f326edb69f34cd0dc843757f1d4),
    (blockOf 0xb7b50d510abe0f9424b9b6ef5b3a9fbb, blockOf 0x6639521b4ac4bb350fcf535037abe368),
    (blockOf 0x164820683eb1cd4277b6292b4bd69d17, blockOf 0xff54b0ba2d677e90190d7110c4839598),
    (blockOf 0x7fd53239a9e2f8179184fb9b480e1b17, blockOf 0x1a476f540203ea4cbdfa49f47922311b),
    (blockOf 0x8ad6fdc796967cdb2563d36fe5bfaf84, blockOf 0xc9acad229ca508181db866d99e09c230),
    (blockOf 0x690d0f813800aebfb511cc7232a46c9f, blockOf 0x5f2c901959ca9a4d0eec1086119c4637),
    (blockOf 0xef9d22aaed7f2cfab655aa3dad21f888, blockOf 0xe85c6d5689a55441254092f290ad6dd1),
    (blockOf 0x289daf954d609286ed8958395c60a31e, blockOf 0x09aaf12f6c3a60557eab23a1cb1c87f7),
    (blockOf 0xd97b23fcb8efb682a672f97a17c15928, blockOf 0xd21db97653f482d390148e02456055b9),
    (blockOf 0x32fc5b95b711643478fd64e9a98dbb56, blockOf 0x1e61bf0783b76014806f2d560042f9dc),
    (blockOf 0xee904df4774296e37896d7adfcbf0723, blockOf 0xdd862322e9a8a300f3692d48677ea4cc)]

/-- A cipher with these values and those of the tests of symmetric keys, and the identity
elsewhere. -/
def suiteCipher : BlockCipher Bytes Block :=
  .ofPerm fun key =>
    let pairs :=
      if key = vectorKey then storedPairs else if key = vectorPublic then testPairs else []
    (pairs.map fun pair => Equiv.swap pair.1 pair.2).foldr (fun first rest => first * rest) 1

/-- The build with mbedtls. -/
def suiteBuild : CryptLib :=
  .mbedcrypt (.blockwise suiteCipher) (.reference testHash) testSigner

/-- The keys get the published seed, and the other random bytes are zeros. -/
def suiteSupplies : Supplies suiteBuild.backend where
  objects := Stream'.const true
  operations := Stream'.const (some (Operation.fresh _ 0 0))
  randoms := fun index =>
    some (if index % 2 = 1 then Memory.write (fun _ => 0) 0 vectorSeed else fun _ => 0)

def suiteClock : Clock where
  reeTimes := Stream'.const ⟨1600000000, 123⟩
  cycles := Stream'.const 1999

/-- A run on a Keystone host that moves seven bytes at a time. -/
theorem main_completes_iff_published :
    ∃ after,
      (main Platform.publishedKeystone .usual true (fun _ _ => 7) testDat).Returns
        ⟨(Enclave.start (.reference suiteCipher) (.empty (Stream'.const (.move 7))), suiteSupplies,
          suiteClock), []⟩ 0
        ⟨after, [] ++ transcript suiteCipher testHash Platform.publishedKeystone suiteSupplies
          suiteClock testDat⟩ := by
  have storage := Mbedtls.reference_cbcLaws suiteCipher
  have cbc : suiteBuild.CbcLaws suiteCipher :=
    ⟨storage.crypt, storage.empty, storage.unaligned⟩
  have parts : suiteBuild.PartsLaws suiteCipher := ⟨_, _, Mbedtls.blockwise_partsLaws suiteCipher⟩
  have makes : suiteBuild.MakesKeys := (CryptLib.Kind.mbedcrypt.build_makesKeys suiteCipher)
  have hashes : suiteBuild.backend.sha3.Laws testHash fun context message => context = message :=
    Sha3.reference_laws length_testHash
  have ample : suiteSupplies.Ample :=
    ⟨fun _ => rfl, fun _ => Option.some_ne_none _, fun _ => Option.some_ne_none _⟩
  exact (main_completes_iff storage _ .usual true cbc parts makes hashes testSigner_laws
    (obliging_fresh suiteCipher) ample suiteClock length_testDat (fun _ _ => 7) []).mpr (.inr rfl)

end Program
end TaRef
