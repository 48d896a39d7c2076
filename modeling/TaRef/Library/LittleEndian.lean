import TaRef.Library.Memory

/-!
# Words in memory

A number is stored as a fixed count of bytes, the least significant first.  A 64-bit word read back
after it was stored is the word, and reading depends on its eight bytes only.
-/

namespace TaRef
namespace LittleEndian

/-- The `width` lowest bytes of a number. -/
def encode (width value : Nat) : Bytes :=
  (List.range width).map fun index => UInt8.ofNat (value / 256 ^ index)

/-- The number that some bytes are the digits of. -/
def decode : Bytes → Nat
  | [] => 0
  | byte :: bytes => byte.toNat + 256 * decode bytes

@[simp]
theorem length_encode (width value : Nat) : (encode width value).length = width := by
  simp [encode]

theorem encode_succ (width value : Nat) :
    encode (width + 1) value = UInt8.ofNat value :: encode width (value / 256) := by
  rw [encode, List.range_succ_eq_map, List.map_cons, List.map_map, pow_zero, Nat.div_one, encode]
  congr 1
  apply List.map_congr_left
  intro index _
  simp only [Function.comp_apply, Nat.div_div_eq_div_mul, pow_succ']

/-- Decoding recovers the number up to the width. -/
theorem decode_encode (width value : Nat) : decode (encode width value) = value % 256 ^ width := by
  induction width generalizing value with
  | zero => simp [encode, decode, Nat.mod_one]
  | succ width ih =>
      have digits : value % (256 * 256 ^ width) =
          value % 256 + 256 * (value / 256 % 256 ^ width) := Nat.mod_mul
      have lowest : (UInt8.ofNat value).toNat = value % 256 := UInt8.toNat_ofNat'
      rw [encode_succ, decode, ih, lowest, Nat.pow_succ', digits]

end LittleEndian

namespace Memory

variable {memory other : Memory} {address location : Nat}

/-- The 64-bit word at an address. -/
def getWord (memory : Memory) (address : Nat) : UInt64 :=
  .ofNat (LittleEndian.decode (memory.read address 8))

/-- Store a 64-bit word at an address. -/
def putWord (memory : Memory) (address : Nat) (word : UInt64) : Memory :=
  memory.write address (LittleEndian.encode 8 word.toNat)

/-- Writing changes no byte outside the range written. -/
theorem write_outside {bytes : Bytes}
    (outside : location < address ∨ address + bytes.length ≤ location) :
    memory.write address bytes location = memory location := by
  rcases outside with below | above
  · exact write_of_lt bytes below
  · exact write_of_le above

@[simp]
theorem write_single (memory : Memory) (address : Nat) (byte : UInt8) :
    memory.write address [byte] address = byte := by
  simp [write]

theorem write_single_ne (byte : UInt8) (different : location ≠ address) :
    memory.write address [byte] location = memory location := by
  apply write_outside
  rw [List.length_singleton]
  omega

theorem putWord_outside (word : UInt64) (outside : location < address ∨ address + 8 ≤ location) :
    memory.putWord address word location = memory location :=
  write_outside (by simpa using outside)

@[simp]
theorem getWord_putWord (memory : Memory) (address : Nat) (word : UInt64) :
    (memory.putWord address word).getWord address = word := by
  have stored := read_write memory address (LittleEndian.encode 8 word.toNat)
  rw [LittleEndian.length_encode] at stored
  rw [getWord, putWord, stored, LittleEndian.decode_encode,
    Nat.mod_eq_of_lt (show word.toNat < 256 ^ 8 from word.toNat_lt), UInt64.ofNat_toNat]

/-- A word depends on its eight bytes. -/
theorem getWord_congr (same : ∀ offset < 8, memory (address + offset) = other (address + offset)) :
    memory.getWord address = other.getWord address := by
  have bytes_eq : memory.read address 8 = other.read address 8 := by
    apply List.map_congr_left
    intro offset member
    exact same offset (List.mem_range.mp member)
  rw [getWord, getWord, bytes_eq]

theorem getWord_putWord_of_disjoint (word : UInt64) {place : Nat}
    (disjoint : place + 8 ≤ address ∨ address + 8 ≤ place) :
    (memory.putWord address word).getWord place = memory.getWord place := by
  apply getWord_congr
  intro offset offset_lt
  apply putWord_outside
  omega

theorem getWord_write_single (byte : UInt8) {place : Nat}
    (outside : address < place ∨ place + 8 ≤ address) :
    (memory.write address [byte]).getWord place = memory.getWord place := by
  apply getWord_congr
  intro offset offset_lt
  apply write_single_ne
  omega

end Memory
end TaRef
