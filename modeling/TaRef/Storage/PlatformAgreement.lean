import TaRef.Storage.RefinedCalls
import TaRef.Storage.Start

/-!
# Agreement of the platforms

Keystone and SGX give the same answers and the same plaintext in every run in which the SGX host
moves all that each transfer asks for, because both then refine the object store.  A host that moves
part of a read is enough to tell them apart.
-/

namespace TaRef

variable {lib : Mbedtls}

/-- The object store that starts with some files, whose contents only a platform knows. -/
def ObjectStore.start (host : Host) (mallocs : Stream' Bool) : ObjectStore where
  files path := (host.files path).map fun bytes =>
    { cells := (List.range ((bytes.length + 15) / 16)).map (Cell.initial path)
      size := bytes.length }
  accesses := []
  opens := host.opens
  mallocs

/-- The blocks of the initial files of a host. -/
def Host.preset (host : Host) (path : Bytes) (index : Nat) : Block :=
  (padded (host.content path)).getD index Block.zero

/-- A trusted application without objects on a prompt host, whose key derivations succeed. -/
structure Enclave.Fresh (tee : Enclave lib) : Prop where
  objects : tee.objects = []
  derives : ∀ count, tee.derives.get count = true
  prompt : tee.host.transfers.All Transfer.Prompt

/-- A fresh application refines an object store that starts with files of the same lengths. -/
theorem Refines.start (platform : Platform) (aes : BlockCipher Bytes Block) {tee : Enclave lib}
    (fresh : tee.Fresh) {host : Host} {mallocs : Stream' Bool}
    (files : ∀ path, (tee.host.files path).map List.length = (host.files path).map List.length)
    (opens : tee.host.opens = host.opens)
    (same : ∀ count, (tee.mallocs.get count).isSome = mallocs.get count) :
    Refines platform aes tee.host.preset (ObjectStore.start host mallocs) tee := by
  refine ⟨?_, by simp [fresh.objects, ObjectStore.start], ?_, ?_, opens, same, fresh.derives,
    fresh.prompt⟩
  · intro path
    have lengths := files path
    cases stored : tee.host.files path with
    | none =>
        rw [stored, Option.map_none, eq_comm, Option.map_eq_none_iff] at lengths
        simp only [ObjectStore.start, lengths, Option.map_none]
        exact .none
    | some bytes =>
        rw [stored, Option.map_some, eq_comm, Option.map_eq_some_iff] at lengths
        obtain ⟨other, other_eq, length_eq⟩ := lengths
        simp only [ObjectStore.start, other_eq, Option.map_some]
        refine .some ⟨length_eq, ?_⟩
        apply List.ext_getElem
        · simp [length_eq]
        · intro index _ inside
          have value_eq : (padded bytes).getD index Block.zero = (padded bytes)[index] := by
            rw [List.getD_eq_getElem?_getD, List.getElem?_eq_getElem inside, Option.getD_some]
          simpa [Cell.value, Host.preset, Host.content, stored] using value_eq
  · intro index access used
    simp [ObjectStore.start] at used
  · intro index other access access' handle handle' used
    simp [ObjectStore.start] at used

/-- Keystone needs no more than a prompt host. -/
theorem Refines.undivided_keystone {attestEnclave : Bytes → Bytes} {aes : BlockCipher Bytes Block}
    {preset : Bytes → Nat → Block} {store : ObjectStore} {tee : Enclave lib}
    (refines : Refines (.keystone attestEnclave) aes preset store tee) (call : StorageCall) :
    (Platform.keystone attestEnclave).Undivided (some tee) call := by
  have complete : ∀ size,
      (Platform.keystone attestEnclave).Completes tee.host.transfers size :=
    bytesMoved_of_prompt (Nat.zero_lt_succ 255) refines.prompt
  cases call with
  | create objectID flags => trivial
  | «open» objectID flags => trivial
  | write object buffer => exact fun _ _ _ _ => complete _
  | read object buffer size => exact fun _ _ _ _ => complete _
  | close object => trivial

/-- A step of the object store and of a platform from related states, running or stopped. -/
theorem Corresponds.of_refinesRun {platform : Platform} {aes : BlockCipher Bytes Block}
    {preset : Bytes → Nat → Block} (laws : lib.CbcLaws aes) {store : Option ObjectStore}
    {tee : Option (Enclave lib)} {call : StorageCall}
    (refines : RefinesRun platform aes preset store tee) (regular : ObjectStore.Regular store call)
    (undivided : platform.Undivided tee call) :
    Corresponds platform aes preset (ObjectStore.step store call) (platform.step tee call) := by
  cases store with
  | none =>
      cases tee with
      | none => exact ⟨.of_answer rfl rfl rfl, trivial⟩
      | some tee => exact refines.elim
  | some store =>
      cases tee with
      | none => exact refines.elim
      | some tee => exact Refines.step laws refines regular undivided

/-- The outputs of a run are those of the object store. -/
theorem Refines.run (platform : Platform) {aes : BlockCipher Bytes Block}
    {preset : Bytes → Nat → Block} (laws : lib.CbcLaws aes) {store : ObjectStore}
    {tee : Enclave lib} (refines : Refines platform aes preset store tee)
    {calls : List StorageCall}
    (regular : Machine.Within ObjectStore.step ObjectStore.Regular (some store) calls)
    (undivided : Machine.Within platform.step platform.Undivided (some tee) calls) :
    List.Forall₂ Reply.Shown (Machine.outputs ObjectStore.step (some store) calls)
      (Machine.outputs platform.step (some tee) calls) := by
  refine Machine.lockstep (fun store tee call related regular undivided => ?_)
    (show RefinesRun platform aes preset (some store) (some tee) from refines) regular undivided
  exact Corresponds.of_refinesRun laws related regular undivided

/-- On Keystone a prompt host is enough. -/
theorem Refines.run_keystone {attestEnclave : Bytes → Bytes} {aes : BlockCipher Bytes Block}
    {preset : Bytes → Nat → Block} (laws : lib.CbcLaws aes) {store : ObjectStore}
    {tee : Enclave lib} (refines : Refines (.keystone attestEnclave) aes preset store tee)
    {calls : List StorageCall}
    (regular : Machine.Within ObjectStore.step ObjectStore.Regular (some store) calls) :
    List.Forall₂ Reply.Shown (Machine.outputs ObjectStore.step (some store) calls)
      (Machine.outputs (Platform.keystone attestEnclave).step (some tee) calls) := by
  refine Machine.lockstep (fun store tee call related regular _ => ?_)
    (show RefinesRun (.keystone attestEnclave) aes preset (some store) (some tee) from refines)
    regular (Machine.within_true _ _ _)
  refine Corresponds.of_refinesRun laws related regular ?_
  cases tee with
  | none => cases call <;> trivial
  | some tee =>
      cases store with
      | none => exact related.elim
      | some store => exact Refines.undivided_keystone related call

/-- Two outputs have the same result code, handle and `*count` and show the same plaintext: where a
block was written, both show it, and when all blocks of the read were written, the plaintexts are
equal. -/
structure StorageOutput.Agree (reply : Reply) (left right : StorageOutput) : Prop where
  answer : left.answer = right.answer
  data : ∀ (index : Nat) (plain : Block), reply.written[index]? = some (some plain) →
    (toBlocks left.plaintext)[index]? = some plain ∧ (toBlocks right.plaintext)[index]? = some plain
  whole : none ∉ reply.written → left.plaintext = right.plaintext

/-- Blocks that were all written are shown as they were written. -/
theorem eq_map_of_shows {written : List (Option Block)} {blocks : List Block}
    (shown : List.Forall₂ Shows written blocks) (whole : none ∉ written) :
    written = blocks.map some := by
  induction shown with
  | nil => rfl
  | @cons known block written blocks shows rest ih =>
      rw [List.mem_cons, not_or] at whole
      obtain ⟨plain, rfl⟩ := Option.ne_none_iff_exists'.mp (Ne.symm whole.1)
      rw [ih whole.2, shows plain rfl, List.map_cons]

/-- Two outputs that the same reply describes agree. -/
theorem Reply.Shown.agree {reply : Reply} {left right : StorageOutput}
    (shown : reply.Shown left) (shown' : reply.Shown right) : left.Agree reply right := by
  obtain ⟨same, blocks, left_eq, written⟩ := shown
  obtain ⟨same', blocks', right_eq, written'⟩ := shown'
  refine ⟨same.trans same'.symm, fun index plain known => ?_, fun whole => ?_⟩
  · obtain ⟨block, found, shows⟩ := Machine.forall₂_getElem? written known
    obtain ⟨block', found', shows'⟩ := Machine.forall₂_getElem? written' known
    rw [left_eq, right_eq, toBlocks_joinBlocks, toBlocks_joinBlocks, found, found',
      shows plain rfl, shows' plain rfl]
    exact ⟨rfl, rfl⟩
  · have blocks_eq := (eq_map_of_shows written whole).symm.trans (eq_map_of_shows written' whole)
    rw [left_eq, right_eq, List.map_injective_iff.mpr (Option.some_injective _) blocks_eq]

/-- The outputs of two runs agree, call by call. -/
def StorageOutput.AgreeThroughout (replies : List Reply) (lefts rights : List StorageOutput) :
    Prop :=
  ∀ (index : Nat) (reply : Reply), replies[index]? = some reply →
    ∃ left right, lefts[index]? = some left ∧ rights[index]? = some right ∧
      left.Agree reply right

/-- Keystone and SGX agree on every run of regular calls in which the SGX host moves all that each
transfer asks for. -/
theorem platforms_agree {aes : BlockCipher Bytes Block} (laws : lib.CbcLaws aes)
    (attestEnclave : Bytes → Bytes) (reportKey : Block) (sealKey : Bytes → Block)
    (sha3 : Nat → Bytes → Bytes) {left right : Enclave lib} (left_fresh : left.Fresh)
    (right_fresh : right.Fresh)
    (files : ∀ path, (left.host.files path).map List.length =
      (right.host.files path).map List.length)
    (opens : left.host.opens = right.host.opens)
    (mallocs : ∀ count, (left.mallocs.get count).isSome = (right.mallocs.get count).isSome)
    {calls : List StorageCall}
    (regular : Machine.Within ObjectStore.step ObjectStore.Regular
      (some (.start right.host (right.mallocs.map Option.isSome))) calls)
    (undivided : Machine.Within (Platform.sgx reportKey sealKey sha3).step
      (Platform.sgx reportKey sealKey sha3).Undivided (some right) calls) :
    StorageOutput.AgreeThroughout
      (Machine.outputs ObjectStore.step
        (some (.start right.host (right.mallocs.map Option.isSome))) calls)
      (Machine.outputs (Platform.keystone attestEnclave).step (some left) calls)
      (Machine.outputs (Platform.sgx reportKey sealKey sha3).step (some right) calls) := by
  intro index reply replied
  have keystone := Refines.run_keystone laws
    (Refines.start (.keystone attestEnclave) aes left_fresh files opens mallocs) regular
  have sgx := Refines.run (.sgx reportKey sealKey sha3) laws
    (Refines.start _ aes right_fresh (fun _ => rfl) rfl fun _ => rfl) regular undivided
  obtain ⟨left_output, left_found, left_shown⟩ := Machine.forall₂_getElem? keystone replied
  obtain ⟨right_output, right_found, right_shown⟩ := Machine.forall₂_getElem? sgx replied
  exact ⟨left_output, right_output, left_found, right_found, left_shown.agree right_shown⟩

/-- Write three blocks to a new object in two calls and read them back in two others. -/
def publishedCalls : List StorageCall :=
  [.create (some [97]) (teeDataFlagAccessWrite ||| teeDataFlagOverwrite),
    .write (some 0) (vectorPlain.1 ++ vectorPlain.1), .write (some 0) vectorPlain.1,
    .close (some 0), .open (some [97]) teeDataFlagAccessRead,
    .read (some 1) (List.replicate 16 0) 16, .read (some 1) (List.replicate 48 0) 48]

/-- A fresh application on an empty host that moves some number of bytes at most. -/
def publishedFresh (amount : Nat) : Enclave (.reference vectorCipher) :=
  .start _ (.empty (Stream'.const (.move amount)))

theorem publishedFresh_fresh {amount : Nat} (amount_pos : 0 < amount) :
    (publishedFresh amount).Fresh :=
  ⟨rfl, fun _ => rfl, fun _ => amount_pos⟩

theorem platforms_agree_published :
    StorageOutput.AgreeThroughout
      (Machine.outputs ObjectStore.step (some (.start (publishedFresh 4096).host
        ((publishedFresh 4096).mallocs.map Option.isSome))) publishedCalls)
      (Machine.outputs Platform.publishedKeystone.step (some (publishedFresh 7)) publishedCalls)
      (Machine.outputs Platform.publishedSgx.step (some (publishedFresh 4096)) publishedCalls) := by
  refine platforms_agree (Mbedtls.reference_cbcLaws vectorCipher) _ _ _ _
    (publishedFresh_fresh (Nat.zero_lt_succ 6)) (publishedFresh_fresh (Nat.zero_lt_succ 4095))
    (fun _ => rfl) rfl (fun _ => rfl) ?_ ?_
  · decide +kernel
  · decide +kernel

/-- Write a block, and read it back after a write to the reader, which is refused. -/
def disturbedCalls : List StorageCall :=
  [.create (some [97]) (teeDataFlagAccessWrite ||| teeDataFlagOverwrite),
    .write (some 0) vectorPlain.1, .close (some 0),
    .open (some [97]) teeDataFlagAccessRead, .write (some 1) vectorPlain.1,
    .read (some 1) (List.replicate 16 0) 16]

/-- The refused write loses the chaining value of the reader, and what the block decrypts to depends
on the key of the platform. -/
example :
    (Machine.outputs (Platform.keystone fun _ => List.replicate 48 0).step
        (some (publishedFresh 4096)) disturbedCalls).map StorageOutput.plaintext ≠
      (Machine.outputs Platform.publishedSgx.step (some (publishedFresh 4096))
        disturbedCalls).map StorageOutput.plaintext := by
  decide +kernel

/-- A fresh application on a host that has one file of sixteen bytes and moves eight at a time. -/
def halvingFresh : Enclave (.reference vectorCipher) :=
  .start _ { Host.empty (Stream'.const (.move 8)) with
    files := fun path => if path = [97] then some (List.replicate 16 0) else none }

/-- Open the file and read its bytes. -/
def readWhole : List StorageCall :=
  [.open (some [97]) teeDataFlagAccessRead, .read (some 0) (List.replicate 16 0) 16]

/-- The host is prompt and the calls are regular, but the two `*count` values differ. -/
theorem halved_read_counts_differ :
    halvingFresh.Fresh ∧
      Machine.Within ObjectStore.step ObjectStore.Regular
        (some (.start halvingFresh.host (halvingFresh.mallocs.map Option.isSome))) readWhole ∧
      (Machine.outputs Platform.publishedKeystone.step (some halvingFresh) readWhole).map
        StorageOutput.answer ≠
          (Machine.outputs Platform.publishedSgx.step (some halvingFresh) readWhole).map
            StorageOutput.answer := by
  refine ⟨⟨rfl, fun _ => rfl, fun _ => Nat.zero_lt_succ 7⟩, ?_, ?_⟩
  · decide +kernel
  · decide +kernel

end TaRef
