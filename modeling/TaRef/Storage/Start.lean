import TaRef.Crypto.Reference
import TaRef.Storage.Run

/-!
# A trusted application that starts on an empty host

The first object it creates is handle zero, whatever the host decides about transfers.
-/

namespace TaRef

/-- A host without files that grants every `open`. -/
def Host.empty (transfers : Stream' Transfer) : Host where
  files _ := none
  descriptors := []
  opens := Stream'.const true
  transfers

/-- A trusted application without objects, whose allocations and key derivations succeed. -/
def Enclave.start (lib : Mbedtls) (host : Host) : Enclave lib where
  host
  objects := []
  mallocs := Stream'.const (some fun _ => 0)
  derives := Stream'.const true

variable {lib : Mbedtls}

/-- The state after the first object was created for writing. -/
def Platform.created (lib : Mbedtls) (platform : Platform) (transfers : Stream' Transfer)
    (id : Bytes) (flags : UInt32) : Enclave lib :=
  (teeCreatePersistentObject platform.keys (.start lib (.empty transfers)) (some id) flags).2

theorem Host.openPath_empty (transfers : Stream' Transfer) (path : Bytes) {flags : UInt32}
    (write : hasFlag flags teeDataFlagAccessWrite = true) :
    ((Host.empty transfers).openPath path (openFlags flags true)).1 = 0 := by
  obtain ⟨mode, _, creat⟩ := openFlags_write write true
  simp [openPath, mode, creat, Host.empty, install]

section First

variable (platform : Platform) (transfers : Stream' Transfer) {id : Bytes} {flags : UInt32}
  (short : id.length ≤ teeObjectIdMaxLen)
  (write : hasFlag flags teeDataFlagAccessWrite = true)
  (not_read : hasFlag flags teeDataFlagAccessRead = false)

include short write not_read

/-- Creating the first object for writing succeeds. -/
theorem Platform.create_first :
    teeCreatePersistentObject platform.keys (.start lib (.empty transfers)) (some id) flags =
      ((.success, some 0),
        { host := ((Host.empty transfers).openPath (cString id) (openFlags flags true)).2
          objects := [programKey (platform.keys.key id) (platform.keys.iv id)
            (newHandle lib flags 0)]
          mallocs := Stream'.const (some fun _ => 0)
          derives := Stream'.const true }) := by
  have first := Host.openPath_empty transfers (cString id) write
  have granted :
      0 ≤ ((Host.empty transfers).openPath (cString id) (openFlags flags true)).1 := by
    rw [first]
  have run := openPersistentObject_granted platform.keys
    (show (Enclave.start lib (.empty transfers)).mallocs.head ≠ none from Option.some_ne_none _)
    (Option.some_ne_none _) rfl short (by rw [not_read, Bool.false_and]) granted
  rw [teeCreatePersistentObject, run]
  simp only [Enclave.start, first]
  rfl

/-- The state after the first creation: one keyed handle on an open descriptor. -/
theorem Platform.created_spec :
    (platform.created lib transfers id flags).objects =
        [programKey (platform.keys.key id) (platform.keys.iv id) (newHandle lib flags 0)] ∧
      (platform.created lib transfers id flags).host.openFile? 0 =
        some (.start (cString id) (openFlags flags true)) ∧
      (platform.created lib transfers id flags).host.transfers = transfers ∧
      (platform.created lib transfers id flags).mallocs = Stream'.const (some fun _ => 0) := by
  have first := Host.openPath_empty transfers (cString id) write
  have granted :
      0 ≤ ((Host.empty transfers).openPath (cString id) (openFlags flags true)).1 := by
    rw [first]
  have opened := Host.openFile?_openPath_self granted
  rw [first] at opened
  rw [created, create_first platform transfers short write not_read]
  exact ⟨rfl, opened, Host.transfers_openPath _ _ _, rfl⟩

theorem Platform.step_create_first :
    platform.step (some (.start lib (.empty transfers))) (.create (some id) flags) =
      (.opened .success (some 0), some (platform.created lib transfers id flags)) := by
  have result_eq := congrArg Prod.fst
    (@create_first lib platform transfers id flags short write not_read)
  rw [step_create, result_eq]
  rfl

theorem Platform.holds_first :
    platform.Holds id flags 0 (platform.created lib transfers id flags) :=
  ⟨.start lib (.empty transfers), platform.created lib transfers id flags,
    .create (some id) flags, [], .inl rfl,
    platform.step_create_first transfers short write not_read, List.not_mem_nil, rfl⟩

end First

/-- Keystone with an attestation signature that starts with the key of the published example. -/
def Platform.publishedKeystone : Platform :=
  .keystone fun _ => vectorKey ++ List.replicate 32 0

/-- SGX with report and seal keys that are the halves of the key of the published example. -/
def Platform.publishedSgx : Platform :=
  .sgx (Block.ofBytes vectorKey) (fun _ => Block.ofBytes (vectorKey.drop 16))
    fun size _ => List.replicate size 0

/-- A handle of that platform opened for writing on an empty host. -/
def publishedWriter (platform : Platform) (transfers : Stream' Transfer) :
    Enclave (.reference vectorCipher) :=
  platform.created _ transfers [97] (teeDataFlagAccessWrite ||| teeDataFlagOverwrite)

section Published

variable (platform : Platform) (transfers : Stream' Transfer)

theorem publishedWriter_created :
    platform.step (some (.start (.reference vectorCipher) (.empty transfers)))
        (.create (some [97]) (teeDataFlagAccessWrite ||| teeDataFlagOverwrite)) =
      (.opened .success (some 0), some (publishedWriter platform transfers)) :=
  platform.step_create_first transfers (by decide) (by decide) (by decide)

theorem publishedWriter_holds :
    platform.Holds [97] (teeDataFlagAccessWrite ||| teeDataFlagOverwrite) 0
      (publishedWriter platform transfers) :=
  platform.holds_first transfers (by decide) (by decide) (by decide)

theorem publishedWriter_spec :
    (publishedWriter platform transfers).objects =
        [programKey (platform.keys.key [97]) (platform.keys.iv [97])
          (newHandle _ (teeDataFlagAccessWrite ||| teeDataFlagOverwrite) 0)] ∧
      (publishedWriter platform transfers).host.openFile? 0 =
        some (.start [97] (oWronly ||| oTrunc ||| oCreat)) ∧
      (publishedWriter platform transfers).host.transfers = transfers ∧
      (publishedWriter platform transfers).mallocs = Stream'.const (some fun _ => 0) :=
  platform.created_spec transfers (by decide) (by decide) (by decide)

end Published

/-- A host with one file that grants every `open`. -/
def Host.storing (content : Bytes) (transfers : Stream' Transfer) : Host :=
  { Host.empty transfers with files := Function.update (fun _ => none) [97] (some content) }

/-- A handle of a published platform opened for reading that file. -/
def publishedOpened (platform : Platform) (content : Bytes) (transfers : Stream' Transfer) :
    Enclave (.reference vectorCipher) :=
  (teeOpenPersistentObject platform.keys (.start _ (.storing content transfers)) (some [97])
    teeDataFlagAccessRead).2

theorem publishedOpened_opened (platform : Platform) (content : Bytes)
    (transfers : Stream' Transfer) :
    platform.step (some (.start (.reference vectorCipher) (.storing content transfers)))
        (.open (some [97]) teeDataFlagAccessRead) =
      (.opened .success (some 0), some (publishedOpened platform content transfers)) := rfl

theorem publishedOpened_holds (platform : Platform) (content : Bytes)
    (transfers : Stream' Transfer) :
    platform.Holds [97] teeDataFlagAccessRead 0 (publishedOpened platform content transfers) :=
  ⟨_, _, _, [], .inr rfl, publishedOpened_opened platform content transfers, List.not_mem_nil, rfl⟩

end TaRef
