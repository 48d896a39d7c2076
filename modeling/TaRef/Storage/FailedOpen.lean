import TaRef.Storage.Start

/-!
# Openings that fail

`OpenPersistentObject` asks the host to open the file before it derives the key of the object, and
leaves the descriptor open when the derivation fails.  Every other failing exit comes before the
host did anything.
-/

namespace TaRef

variable {lib : Mbedtls}

/-- An opening left the files and the descriptors of the host, and the caller's `*object`, as they
were. -/
structure NoEffect (tee : Enclave lib) (opening : (TeeResult × Option Nat) × Enclave lib) :
    Prop where
  files : opening.2.host.files = tee.host.files
  descriptors : opening.2.host.descriptors = tee.host.descriptors
  object : opening.1.2 = none

/-- The arguments are accepted, both allocations succeed and the host grants the file, but the key
derivation fails. -/
structure DerivationFails (tee : Enclave lib) (objectID : Option Bytes) (flags : UInt32)
    (ocreat : Bool) (id : Bytes) : Prop where
  given : objectID = some id
  short : id.length ≤ teeObjectIdMaxLen
  one_way : (hasFlag flags teeDataFlagAccessRead && hasFlag flags teeDataFlagAccessWrite) = false
  first : tee.mallocs.head ≠ none
  second : tee.mallocs.tail.head ≠ none
  granted : 0 ≤ (tee.host.openPath (cString id) (openFlags flags ocreat)).1
  underived : tee.derives.head = false

/-- When the derivation fails, the host's `open` stays done. -/
theorem openPersistentObject_underived (keys : KeyDerivation) {tee : Enclave lib}
    {objectID : Option Bytes} {flags : UInt32} {ocreat : Bool} {id : Bytes}
    (fails : DerivationFails tee objectID flags ocreat id) :
    openPersistentObject keys tee objectID flags ocreat =
      ((.errorSecurity, none),
        { host := (tee.host.openPath (cString id) (openFlags flags ocreat)).2
          objects := tee.objects
          mallocs := tee.mallocs.tail.tail
          derives := tee.derives.tail }) := by
  obtain ⟨_, first_eq⟩ := Option.ne_none_iff_exists'.mp fails.first
  obtain ⟨_, second_eq⟩ := Option.ne_none_iff_exists'.mp fails.second
  simp only [openPersistentObject, openPersistentObjectOn, Enclave.malloc, setObjectKey,
    fails.given, if_neg (Nat.not_lt.mpr fails.short), fails.one_way, first_eq, second_eq,
    if_neg (Int.not_lt.mpr fails.granted), fails.underived, Bool.false_eq_true, if_false]

/-- A granted `open` takes a descriptor that was free. -/
theorem Host.descriptors_openPath_ne {host : Host} {path : Bytes} {flags : UInt32}
    (granted : 0 ≤ (host.openPath path flags).1) :
    (host.openPath path flags).2.descriptors ≠ host.descriptors := by
  intro same
  have opened := openFile?_openPath_self granted
  have fresh := openFile?_openPath_fresh granted
  obtain ⟨index, fd_eq, entry⟩ := openFile?_eq_some opened
  rw [same] at entry
  rw [fd_eq] at fresh
  simp [openFile?, entry] at fresh

/-- A failing exit other than that of the key derivation has no effect. -/
theorem openPersistentObject_noEffect (keys : KeyDerivation) {tee : Enclave lib}
    {objectID : Option Bytes} {flags : UInt32} {ocreat : Bool}
    (derived : ∀ id, ¬ DerivationFails tee objectID flags ocreat id)
    (failed : (openPersistentObject keys tee objectID flags ocreat).1.1 ≠ .success) :
    NoEffect tee (openPersistentObject keys tee objectID flags ocreat) := by
  cases objectID with
  | none => exact ⟨rfl, rfl, rfl⟩
  | some id =>
      unfold openPersistentObject openPersistentObjectOn Enclave.malloc setObjectKey
      dsimp only
      split
      · exact ⟨rfl, rfl, rfl⟩
      rename_i short
      split
      · exact ⟨rfl, rfl, rfl⟩
      rename_i one_way
      cases first : tee.mallocs.head with
      | none => exact ⟨rfl, rfl, rfl⟩
      | some _ =>
          dsimp only
          cases second : tee.mallocs.tail.head with
          | none => exact ⟨rfl, rfl, rfl⟩
          | some _ =>
              dsimp only
              split
              · rename_i refused
                rw [Host.openPath_refused (Int.not_le.mpr refused)]
                exact ⟨rfl, rfl, rfl⟩
              rename_i granted
              have allowed := Int.not_lt.mp granted
              have accepted := Nat.not_lt.mp short
              have direction := Bool.eq_false_iff.mpr one_way
              have first_ne : tee.mallocs.head ≠ none := by simp [first]
              have second_ne : tee.mallocs.tail.head ≠ none := by simp [second]
              cases derives : tee.derives.head with
              | false =>
                  exact absurd
                    ⟨rfl, accepted, direction, first_ne, second_ne, allowed, derives⟩ (derived id)
              | true =>
                  rw [openPersistentObject_granted keys first_ne second_ne derives accepted
                    direction allowed] at failed
                  exact absurd rfl failed

theorem openPersistentObject_noEffect_iff (keys : KeyDerivation) (tee : Enclave lib)
    (objectID : Option Bytes) (flags : UInt32) (ocreat : Bool) :
    ((openPersistentObject keys tee objectID flags ocreat).1.1 ≠ .success →
        NoEffect tee (openPersistentObject keys tee objectID flags ocreat)) ↔
      ∀ id, ¬ DerivationFails tee objectID flags ocreat id := by
  constructor
  · intro clean id fails
    have run := openPersistentObject_underived keys fails
    have kept :=
      (clean (by rw [run]; exact (nofun : TeeResult.errorSecurity ≠ .success))).descriptors
    rw [run] at kept
    exact Host.descriptors_openPath_ne fails.granted kept
  · exact fun derived failed => openPersistentObject_noEffect keys derived failed

/-- On both platforms a failed creation or opening has no effect, unless the key derivation fails
after the host granted the file. -/
theorem failed_opening_iff (platform : Platform) (tee : Enclave lib) (objectID : Option Bytes)
    (flags : UInt32) :
    (((teeCreatePersistentObject platform.keys tee objectID flags).1.1 ≠ .success →
        NoEffect tee (teeCreatePersistentObject platform.keys tee objectID flags)) ↔
      ∀ id, ¬ DerivationFails tee objectID flags true id) ∧
    (((teeOpenPersistentObject platform.keys tee objectID flags).1.1 ≠ .success →
        NoEffect tee (teeOpenPersistentObject platform.keys tee objectID flags)) ↔
      ∀ id, ¬ DerivationFails tee objectID flags false id) :=
  ⟨openPersistentObject_noEffect_iff _ _ _ _ _, openPersistentObject_noEffect_iff _ _ _ _ _⟩

/-- An opening for overwriting whose key derivation fails has emptied the file and holds a
descriptor. -/
theorem failed_opening_truncates :
    let tee : Enclave (.reference vectorCipher) :=
      { Enclave.start _ (.storing [1, 2, 3] (Stream'.const (.move 16))) with
        derives := Stream'.const false }
    let opening := teeOpenPersistentObject Platform.publishedKeystone.keys tee (some [97])
      (teeDataFlagAccessWrite ||| teeDataFlagOverwrite)
    opening.1.1 = .errorSecurity ∧ tee.host.content [97] = [1, 2, 3] ∧
      opening.2.host.content [97] = [] ∧ opening.2.host.openFile? 0 ≠ none ∧
      ¬ (opening.1.1 ≠ .success → NoEffect tee opening) := by
  intro tee opening
  have failed : opening.1.1 = .errorSecurity := rfl
  have held : opening.2.host.openFile? 0 ≠ none := by
    rw [show opening.2.host.openFile? 0 = some (.start [97] (oWronly ||| oTrunc)) from rfl]
    exact Option.some_ne_none _
  refine ⟨failed, rfl, rfl, held, fun clean => ?_⟩
  have kept := (clean (by rw [failed]; decide)).descriptors
  rw [show opening.2.host.descriptors = [some (.start [97] (oWronly ||| oTrunc))] from rfl] at kept
  exact absurd kept (by decide)

end TaRef
