import TaRef.Crypto.Instances

/-!
# Hash contexts

What the two hash libraries promise: a context absorbs the chunks of a message, and its hash depends
on their concatenation alone.  They differ in the context that is left after the hash has been
taken.
-/

namespace TaRef

/-- The hash functions of wolfCrypt, in the form of those of tiny_sha3. -/
def Wolfcrypt.sha3 (lib : Wolfcrypt) : TaRef.Sha3 where
  Context := lib.Sha3
  zero := lib.sha3Zero
  init := lib.initSha3
  update := lib.sha3Update
  final := lib.sha3Final

namespace Sha3

/-- Chunks accumulate and the hash is that of all of them; `absorbs context message` says that
`message` is what has accumulated. -/
structure Accumulates (lib : Sha3) (hash : Bytes → Bytes) (absorbs : lib.Context → Bytes → Prop) :
    Prop where
  update : ∀ {context message}, absorbs context message →
    ∀ chunk, absorbs (lib.update context chunk) (message ++ chunk)
  final : ∀ {context message}, absorbs context message → (lib.final context).1 = hash message
  length : ∀ message, (hash message).length = 32

/-- The functions hash messages of any number of chunks. -/
structure Laws (lib : Sha3) (hash : Bytes → Bytes) (absorbs : lib.Context → Bytes → Prop) : Prop
    extends Accumulates lib hash absorbs where
  init : ∀ context, absorbs (lib.init context) []

/-- Taking the hash starts the next message. -/
def Reinitialises (lib : Sha3) (absorbs : lib.Context → Bytes → Prop) : Prop :=
  ∀ {context message}, absorbs context message → absorbs (lib.final context).2 []

/-- Taking the hash pads and permutes the context, reads the hash from it, and leaves it so. -/
def PadsInPlace (lib : Sha3) : Prop :=
  ∃ (pad : lib.Context → lib.Context) (permutation : Equiv.Perm lib.Context)
    (digest : lib.Context → Bytes),
    ∀ context, lib.final context = (digest (permutation (pad context)), permutation (pad context))

/-- The context that is left after a hash gives another function of what follows. -/
def LeavesStale (lib : Sha3) (hash other : Bytes → Bytes) : Prop :=
  ∃ absorbs stale, lib.Laws hash absorbs ∧ lib.Accumulates other stale ∧
    ∀ context message, absorbs context message → stale (lib.final context).2 []

theorem reference_laws {hash : Bytes → Bytes} (length : ∀ message, (hash message).length = 32) :
    (reference hash).Laws hash fun context message => context = message where
  init _ := rfl
  update := by
    rintro context _ rfl chunk
    rfl
  final := by
    rintro context _ rfl
    rfl
  length := length

/-- SHA3-256 of the empty message on the context that the hash of an empty message leaves: that
context is padded and permuted a second time. -/
def staleHash : Bytes :=
  bytesOf 32 0xcee74e1650f149c591156232fa15201ec760390c16fed4e808cdd5f1a3a6217d

/-- An instance that leaves its context as it is padded: what was absorbed, and how often it has
been padded.  The hash of a context that was padded before is `staleHash`, whatever was absorbed:
only for the empty message after an empty message is that the value of the library. -/
def marking : Sha3 where
  Context := Bytes × Nat
  zero := ([], 0)
  init _ := ([], 0)
  update context chunk := (context.1 ++ chunk, context.2)
  final context :=
    (if context.2 = 0 then vectorHash context.1 else staleHash, context.1, context.2 + 1)

end Sha3

theorem length_vectorHash (message : Bytes) : (vectorHash message).length = 32 := by
  unfold vectorHash
  split_ifs <;> simp [bytesOf]

namespace Sha3

theorem marking_laws : marking.Laws vectorHash fun context message => context = (message, 0) where
  init _ := rfl
  update := by
    rintro _ message rfl chunk
    rfl
  final := by
    rintro _ message rfl
    rfl
  length := length_vectorHash

theorem marking_padsInPlace : marking.PadsInPlace :=
  ⟨fun context => (context.1, context.2 + 1), Equiv.refl _,
    fun context => if context.2 = 1 then vectorHash context.1 else staleHash,
    fun ⟨message, padded⟩ => by cases padded <;> rfl⟩

/-- From a context that was padded before, the instance hashes everything to `staleHash`. -/
theorem marking_accumulates :
    marking.Accumulates (fun _ => staleHash) fun context _ => context.2 ≠ 0 where
  update padded _ := padded
  final padded := if_neg padded
  length _ := rfl

theorem marking_leavesStale : marking.LeavesStale vectorHash fun _ => staleHash :=
  ⟨_, _, marking_laws, marking_accumulates, by
    rintro _ message rfl
    exact Nat.one_ne_zero⟩

end Sha3
end TaRef
