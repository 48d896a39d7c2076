import TaRef.Crypto.Bundled

/-!
# Libraries with a record

Each interface is extended by a record of what was done with a context: the key last expanded for
CBC, and the GCM events in order, latest first.  The functions do what they did before, so every
instance of an interface has a recording version on which the API can run.
-/

namespace TaRef

/-- What is done with a GCM context. -/
inductive GcmEvent
  /-- A key is set; `TEE_AEInit` does it. -/
  | setkey (key : Bytes)
  /-- The counter is set to the first block of a nonce. -/
  | starts (nonce : Block)
  /-- Some payload is processed with the next counter blocks. -/
  | update (length : Nat)

/-- mbedtls with a record. -/
def Mbedtls.traced (lib : Mbedtls) : Mbedtls where
  AesContext := lib.AesContext × Option Bytes
  aesZero := (lib.aesZero, none)
  aesInit context := (lib.aesInit context.1, none)
  aesFree context := (lib.aesFree context.1, none)
  aesSetkeyEnc context key := (lib.aesSetkeyEnc context.1 key, some key)
  aesSetkeyDec context key := (lib.aesSetkeyDec context.1 key, some key)
  aesCryptCbc context direction iv input := lib.aesCryptCbc context.1 direction iv input
  GcmContext := lib.GcmContext × List GcmEvent
  gcmZero := (lib.gcmZero, [])
  gcmInit context := (lib.gcmInit context.1, context.2)
  gcmSetkey context key :=
    ((lib.gcmSetkey context.1 key).1, ((lib.gcmSetkey context.1 key).2, .setkey key :: context.2))
  gcmStarts context direction nonce aad :=
    ((lib.gcmStarts context.1 direction nonce aad).1,
      ((lib.gcmStarts context.1 direction nonce aad).2, .starts nonce :: context.2))
  gcmUpdate context input :=
    let call := lib.gcmUpdate context.1 input
    { rv := call.rv
      context := (call.context, .update input.length :: context.2)
      output := call.output }
  gcmFinish context :=
    let finish := lib.gcmFinish context.1
    { rv := finish.rv, context := (finish.context, context.2), tag := finish.tag }

/-- wolfCrypt with a record.  Its GCM calls are complete: each starts with the nonce it is given. -/
def Wolfcrypt.traced (lib : Wolfcrypt) : Wolfcrypt where
  Aes := lib.Aes × List GcmEvent
  aesZero := (lib.aesZero, [])
  aesInit context := (lib.aesInit context.1, context.2)
  aesSetKey context key iv direction := (lib.aesSetKey context.1 key iv direction, context.2)
  aesCbcEncrypt context input :=
    (((lib.aesCbcEncrypt context.1 input).1, context.2), (lib.aesCbcEncrypt context.1 input).2)
  aesCbcDecrypt context input :=
    (((lib.aesCbcDecrypt context.1 input).1, context.2), (lib.aesCbcDecrypt context.1 input).2)
  aesGcmSetKey context key :=
    ((lib.aesGcmSetKey context.1 key).1,
      ((lib.aesGcmSetKey context.1 key).2, .setkey key :: context.2))
  aesGcmEncrypt context input nonce aad :=
    let call := lib.aesGcmEncrypt context.1 input nonce aad
    { rv := call.rv
      context := (call.context, .update input.length :: .starts nonce :: context.2)
      output := call.output
      tag := call.tag }
  aesGcmDecrypt context input nonce tag aad :=
    let call := lib.aesGcmDecrypt context.1 input nonce tag aad
    { rv := call.rv
      context := (call.context, .update input.length :: .starts nonce :: context.2)
      output := call.output
      tag := call.tag }
  Sha3 := lib.Sha3
  sha3Zero := lib.sha3Zero
  initSha3 := lib.initSha3
  sha3Update := lib.sha3Update
  sha3Final := lib.sha3Final
  Key := lib.Key
  keyZero := lib.keyZero
  ed25519Init := lib.ed25519Init
  ed25519MakeKey := lib.ed25519MakeKey
  ed25519MakePublic := lib.ed25519MakePublic
  ed25519SignMsg := lib.ed25519SignMsg
  ed25519VerifyMsg := lib.ed25519VerifyMsg

/-! ## The keystream -/

/-- Number of counter blocks for a payload. -/
def counterBlocks (length : Nat) : Nat := (length + 15) / 16

/-- Where the counter of a context stands, and the (key, nonce, counter block) triples that payload
was processed with since the last key was set. -/
structure Keystream where
  key : Bytes
  nonce : Block
  position : Nat
  used : List (Bytes × Block × BitVec 128)

namespace Keystream

variable (aes : BlockCipher Bytes Block)

/-- The triples of the next counter blocks. -/
def next (stream : Keystream) (count : Nat) : List (Bytes × Block × BitVec 128) :=
  (List.range count).map fun index =>
    (stream.key, stream.nonce,
      Gcm.counterBlock aes stream.key stream.nonce (stream.position + index))

/-- The keystream after some events, latest first. -/
def ofTrace : List GcmEvent → Keystream
  | [] => ⟨[], Block.zero, 0, []⟩
  | .setkey key :: _ => ⟨key, Block.zero, 0, []⟩
  | .starts nonce :: earlier => { ofTrace earlier with nonce, position := 0 }
  | .update length :: earlier =>
      let stream := ofTrace earlier
      { stream with
        position := stream.position + counterBlocks length
        used := stream.used ++ stream.next aes (counterBlocks length) }

/-- A stream that was never restarted: the triples used are those of the counter blocks up to its
position. -/
def Single (stream : Keystream) : Prop :=
  stream.used = ({ stream with position := 0 } : Keystream).next aes stream.position

/-- Going on with a single stream keeps it single. -/
theorem Single.update {aes : BlockCipher Bytes Block} {trace : List GcmEvent}
    (single : (ofTrace aes trace).Single aes) (length : Nat) :
    (ofTrace aes (.update length :: trace)).Single aes := by
  simp only [Single, ofTrace, next, Nat.zero_add] at single ⊢
  rw [single, List.range_add, List.map_append, List.map_map]
  rfl

/-- The blocks of a single stream differ up to `2 ^ 32` of them. -/
theorem Single.nodup {aes : BlockCipher Bytes Block} {stream : Keystream}
    (single : stream.Single aes) (limit : stream.position ≤ 2 ^ 32) : stream.used.Nodup := by
  rw [single, next]
  refine List.Nodup.map_on ?_ List.nodup_range
  intro left left_mem right right_mem same
  have left_lt := List.mem_range.mp left_mem
  have right_lt := List.mem_range.mp right_mem
  have counters := congrArg (·.2.2) same
  simp only [Nat.zero_add] at counters
  rw [Gcm.counterBlock_inj, Nat.mod_eq_of_lt (by omega), Nat.mod_eq_of_lt (by omega)] at counters
  exact counters

end Keystream
end TaRef
