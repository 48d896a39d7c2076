import TaRef.Programs.MessageDigest

/-!
# Clients and hosts of the message digest sample

A client sends the two commands and launches the enclave anew, on Keystone before every command,
and the host may replace or remove the file in between.  However they do so, the sample behaves
like a service that remembers what it would find, and believes every beginning of the digest.
-/

namespace TaRef

variable {lib : Mbedtls} {backend : Backend}

/-- What happens to the application: a command of the client, a new launch, and another file in
place of the one that keeps the digest. -/
inductive DigestEvent
  | invoke (command : UInt32)
  | launch
  | replace (file : Option Bytes)
  deriving DecidableEq

/-- What comes of it, with all that has been printed. -/
inductive DigestReply
  | done
  | returned (result : UInt32) (printed : Bytes)
  | stopped (halt : Halt)
  deriving DecidableEq

/-- A new enclave on the same host, which holds no handles. -/
def Enclave.relaunched (tee : Enclave lib) : Enclave lib := { tee with objects := [] }

/-- Put another file in place of one. -/
def Enclave.replaceFile (tee : Enclave lib) (path : Bytes) (file : Option Bytes) : Enclave lib :=
  { tee with host := { tee.host with files := Function.update tee.host.files path file } }

namespace DigestSample

/-- The application and its host under one event. -/
def step (sample : DigestSample) :
    Except Halt (Process (DigestState lib backend)) → DigestEvent →
      DigestReply × Except Halt (Process (DigestState lib backend))
  | .error halt, _ => (.stopped halt, .error halt)
  | .ok ⟨(tee, operations), printed⟩, .launch =>
      (.done, .ok ⟨(tee.relaunched, operations), printed⟩)
  | .ok ⟨(tee, operations), printed⟩, .replace file =>
      (.done, .ok ⟨(tee.replaceFile (cString hashValue) file, operations), printed⟩)
  | .ok process, .invoke command =>
      match (sample.taInvokeCommandEntryPoint command).run process with
      | .ok (result, process) => (.returned result process.printed, .ok process)
      | .error halt => (.stopped halt, .error halt)

end DigestSample

/-! ## The service -/

/-- What the application is for: it knows what it would find. -/
structure DigestService where
  found : Option Bytes
  printed : Bytes

/-- The service for data with some digest, given what would be found of a file. -/
def DigestService.step (digest : Bytes) (saved : Bytes → Bytes) :
    Except Halt DigestService → DigestEvent → DigestReply × Except Halt DigestService
  | .error halt, _ => (.stopped halt, .error halt)
  | .ok service, .launch => (.done, .ok service)
  | .ok service, .replace file => (.done, .ok { service with found := file.map saved })
  | .ok service, .invoke command =>
      let shown := service.printed ++ DigestSample.shown digest
      if command = DigestSample.taRefHashGen then
        (.returned TeeResult.success.code shown, .ok { found := some digest, printed := shown })
      else if command = DigestSample.taRefHashCheck then
        match service.found with
        | none => (.stopped .undefined, .error .undefined)
        | some found =>
            if found <+: digest then
              let printed := shown ++ asciiText "hash: matched!\n"
              (.returned TeeResult.success.code printed, .ok { service with printed })
            else
              (.returned TeeResult.errorSignatureInvalid.code shown,
                .ok { service with printed := shown })
      else (.returned TeeResult.errorBadParameters.code service.printed, .ok service)

/-! ## Runs -/

namespace DigestSample

open Program

variable {sample : DigestSample} {hash : Bytes → Bytes}
  {absorbs : backend.sha3.Context → Bytes → Prop} {aes : BlockCipher Bytes Block}

/-- A process on an obliging host with operations to allocate, which would find what the service
does. -/
structure Serves (sample : DigestSample) (aes : BlockCipher Bytes Block)
    (process : Process (DigestState lib backend)) (service : DigestService) : Prop where
  obliging : process.state.1.Obliging sample.platform
  allocates : process.state.2.All (· ≠ none)
  printed : process.printed = service.printed
  found : (process.state.1.host.files (cString hashValue)).map (sample.saved aes) = service.found

/-- The application and the service stopped in the same way, or are in states that belong
together. -/
def Related (sample : DigestSample) (aes : BlockCipher Bytes Block) :
    Except Halt (Process (DigestState lib backend)) → Except Halt DigestService → Prop
  | .error halt, .error halt' => halt = halt'
  | .ok process, .ok service => sample.Serves aes process service
  | _, _ => False

theorem step_of_returns {process after : Process (DigestState lib backend)} {command result : UInt32}
    (returns : (sample.taInvokeCommandEntryPoint command).Returns process result after) :
    sample.step (.ok process) (.invoke command) = (.returned result after.printed, .ok after) := by
  rw [step, show (sample.taInvokeCommandEntryPoint command).run process = _ from returns]

theorem step_of_stops {process : Process (DigestState lib backend)} {command : UInt32} {halt : Halt}
    (stops : (sample.taInvokeCommandEntryPoint command).run process = .error halt) :
    sample.step (.ok process) (.invoke command) = (.stopped halt, .error halt) := by
  rw [step, stops]

/-- Without a file the second command reads a variable that nothing has set. -/
theorem stops_check {tee : Enclave lib} {operations : Stream' (Option backend.Operation)}
    {printed : Bytes} (hashes : backend.sha3.Laws hash absorbs)
    (allocates : operations.All (· ≠ none))
    (missing : tee.host.files (cString hashValue) = none) :
    (sample.taInvokeCommandEntryPoint taRefHashCheck).run ⟨(tee, operations), printed⟩ =
      .error .undefined := by
  obtain ⟨result, after, opens⟩ := @returns_open_missing lib _ sample.platform tee hashValue missing
    operations.tail (printed ++ shown (hash sample.data))
  have reads : (sample.secureStorageRead (sample.frame.read 48 32) 32 hashValue).run
      ⟨(tee, operations.tail), printed ++ shown (hash sample.data)⟩ = .error .undefined :=
    stops_later opens (stops_bind _ rfl)
  exact stops_bind _ (stops_later (sample.returns_digest hashes allocates printed)
    (stops_bind _ reads))

variable (hashes : backend.sha3.Laws hash absorbs) (laws : lib.CbcLaws aes)
  (counts : sample.platform.CountsBlocks)

include hashes laws counts

/-- One event of the application is one of the service. -/
theorem step_related {left : Except Halt (Process (DigestState lib backend))}
    {right : Except Halt DigestService} (event : DigestEvent)
    (related : sample.Related aes left right) :
    (sample.step left event).1 =
        (DigestService.step (hash sample.data) (sample.saved aes) right event).1 ∧
      sample.Related aes (sample.step left event).2
        (DigestService.step (hash sample.data) (sample.saved aes) right event).2 := by
  rcases left with halt | ⟨⟨tee, operations⟩, printed⟩ <;> rcases right with halt' | ⟨found, _⟩
  · obtain rfl : halt = halt' := related
    exact ⟨rfl, rfl⟩
  · exact related.elim
  · exact related.elim
  obtain ⟨obliging, allocates, rfl, found_eq⟩ := related
  have later : operations.tail.All (· ≠ none) := fun index => allocates (index + 1)
  -- neither touches what the host grants later
  have granted : ∀ after : Enclave lib, after.host.transfers = tee.host.transfers →
      after.mallocs = tee.mallocs → after.host.opens = tee.host.opens →
      after.derives = tee.derives → after.Obliging sample.platform :=
    fun after => @Enclave.Obliging.later lib sample.platform tee after obliging 0 0 0 0
  cases event with
  | launch => exact ⟨rfl, granted _ rfl rfl rfl rfl, allocates, rfl, found_eq⟩
  | replace file =>
      refine ⟨rfl, granted _ rfl rfl rfl rfl, allocates, rfl, ?_⟩
      simp [Enclave.replaceFile]
  | invoke command =>
      by_cases gen : command = taRefHashGen
      · subst gen
        obtain ⟨after, generates, obliging', stores⟩ :=
          sample.returns_gen hashes allocates laws obliging printed
        rw [step_of_returns generates]
        obtain ⟨stored, stored_eq⟩ := Option.isSome_iff_exists.mp stores.present
        have found := sample.saved_of_stores (hashes.length sample.data) stores
        rw [Host.content, stored_eq, Option.getD_some] at found
        exact ⟨rfl, obliging', later, rfl, Option.map_eq_some_iff.mpr ⟨stored, stored_eq, found⟩⟩
      by_cases check : command = taRefHashCheck
      · subst check
        cases found with
        | none =>
            rw [step_of_stops (stops_check hashes allocates (Option.map_eq_none_iff.mp found_eq))]
            exact ⟨rfl, rfl⟩
        | some found =>
            obtain ⟨stored, stored_eq, rfl⟩ := Option.map_eq_some_iff.mp found_eq
            obtain ⟨after, result, text, checks, accepted, obliging', files_eq⟩ :=
              sample.returns_check hashes allocates laws counts obliging
                (Option.isSome_of_eq_some stored_eq) printed
            have content_eq : tee.host.content (cString hashValue) = stored := by
              rw [Host.content, stored_eq, Option.getD_some]
            rw [step_of_returns checks, DigestService.step, if_neg gen, if_pos rfl]
            rw [content_eq] at accepted
            have kept : (after.host.files (cString hashValue)).map (sample.saved aes) =
                some (sample.saved aes stored) := files_eq ▸ found_eq
            split_ifs at accepted with beginning
            · obtain ⟨rfl, rfl⟩ := accepted
              simp only [if_pos beginning]
              exact ⟨trivial, obliging', later, rfl, kept⟩
            · obtain ⟨rfl, rfl⟩ := accepted
              simp only [if_neg beginning, List.append_nil]
              exact ⟨trivial, obliging', later, rfl, kept⟩
      · have other : (sample.taInvokeCommandEntryPoint command).Returns
            ⟨(tee, operations), printed⟩ TeeResult.errorBadParameters.code
            ⟨(tee, operations), printed⟩ := by
          rw [taInvokeCommandEntryPoint, if_neg gen, if_neg check]
          exact returns_pure _ _
        rw [step_of_returns other, DigestService.step, if_neg gen, if_neg check]
        exact ⟨rfl, obliging, allocates, rfl, found_eq⟩

/-- Whatever the client and the host do between the calls, the replies of the sample are those of
the service.  The digest that was generated matches until the host replaces it, and from then on
what is found of the host's file decides: every beginning of the digest matches, and on a file that
is not made of whole blocks it is its plain bytes that are found. -/
theorem digest_sample_serves {tee : Enclave lib} (obliging : tee.Obliging sample.platform)
    {operations : Stream' (Option backend.Operation)} (allocates : operations.All (· ≠ none))
    (printed : Bytes) (events : List DigestEvent) :
    Machine.outputs sample.step (.ok ⟨(tee, operations), printed⟩) events =
      Machine.outputs (DigestService.step (hash sample.data) (sample.saved aes))
        (.ok { found := (tee.host.files (cString hashValue)).map (sample.saved aes), printed })
        events := by
  let service : DigestService :=
    { found := (tee.host.files (cString hashValue)).map (sample.saved aes), printed }
  have serves : sample.Serves aes ⟨(tee, operations), printed⟩ service :=
    ⟨obliging, allocates, rfl, rfl⟩
  rw [← List.forall₂_eq_eq_eq]
  exact Machine.lockstep
    (fun left right event related _ _ => step_related hashes laws counts event related)
    (show sample.Related aes (.ok _) (.ok service) from serves)
    (Machine.within_true _ _ events) (Machine.within_true _ _ events)

omit hashes laws counts

/-- The sample in an enclave of the published key. -/
def published : DigestSample where
  platform := Platform.publishedKeystone
  stdio := .usual
  frame := fun _ => 7
  data := (List.range 16).map UInt8.ofNat
  data_length := by simp

/-- SHA3-256 on that data. -/
def publishedHash (message : Bytes) : Bytes :=
  if message = published.data then
    bytesOf 32 0x39462d2a2320f8da572a97b0b39473d4312e0228b23e2c2fe0ae9b6c67f2343c
  else List.replicate 32 0

theorem length_publishedHash (message : Bytes) : (publishedHash message).length = 32 := by
  unfold publishedHash
  split <;> simp [bytesOf]

/-- A cipher with the values of AES-256 under the example key for that digest. -/
def publishedCipher : BlockCipher Bytes Block :=
  .ofPerm fun key =>
    if key = vectorKey then
      Equiv.swap (blockOf 0x39462d2a2320f8da572a97b0b39473d4)
          (blockOf 0xf6e5149653f00aed6047ca76dfb7b355) *
        Equiv.swap (blockOf 0xc7cb16bee1ce26c280e9511ab8458769)
          (blockOf 0xdf6d9c907bb3c8ce9448100421811dc7)
    else 1

/-- A run in which the host leaves one byte of the digest. -/
theorem digest_sample_serves_published :
    Machine.outputs published.step
        (.ok ⟨(Enclave.start (.reference publishedCipher) (.empty (Stream'.const (.move 7))),
          Stream'.const (some (Operation.fresh (.mbedcrypt (.reference publishedCipher)
            (.reference publishedHash) .reference) 0 0))), []⟩)
        [.invoke taRefHashGen, .launch, .replace (some [0x39]), .invoke taRefHashCheck] =
      Machine.outputs (DigestService.step (publishedHash published.data)
        (published.saved publishedCipher)) (.ok { found := none, printed := [] })
        [.invoke taRefHashGen, .launch, .replace (some [0x39]), .invoke taRefHashCheck] := by
  have hashes : (Backend.mbedcrypt (.reference publishedCipher) (.reference publishedHash)
      .reference).sha3.Laws publishedHash (fun context message => context = message) :=
    Sha3.reference_laws length_publishedHash
  have counts : published.platform.CountsBlocks := trivial
  exact digest_sample_serves hashes (Mbedtls.reference_cbcLaws publishedCipher) counts
    (obliging_fresh publishedCipher) (fun _ => Option.some_ne_none _) [] _

end DigestSample
end TaRef
