import StbEbpf.Lib.Access

/-! Machine words as they lie in memory on a little-endian host, and records made of them. -/

namespace StbEbpf.Words
open CText Access

def leBytes : Nat → Nat → Bytes
  | 0, _ => []
  | count + 1, value => UInt8.ofNat value :: leBytes count (value / 256)

def leValue : Bytes → Nat
  | [] => 0
  | byte :: rest => byte.toNat + 256 * leValue rest

theorem leBytes_length (count value : Nat) : (leBytes count value).length = count := by
  induction count generalizing value with
  | zero => rfl
  | succ count ih => exact congrArg (· + 1) (ih _)

theorem leValue_leBytes (count value : Nat) : leValue (leBytes count value) = value % 256 ^ count := by
  induction count generalizing value with
  | zero => exact (Nat.mod_one value).symm
  | succ count ih =>
    have low : (UInt8.ofNat value).toNat = value % 256 := UInt8.toNat_ofNat
    rw [leBytes, leValue, ih, low, Nat.pow_succ', Nat.mod_mul]

theorem leValue_of_lt {count value : Nat} (small : value < 256 ^ count) : leValue (leBytes count value) = value := by
  rw [leValue_leBytes, Nat.mod_eq_of_lt small]

theorem leValue_lt (slice : Bytes) : leValue slice < 256 ^ slice.length := by
  induction slice with
  | nil => exact Nat.one_pos
  | cons byte rest ih =>
    have small := byte.toNat_lt
    rw [leValue, List.length_cons, Nat.pow_succ']
    omega

theorem leBytes_leValue (slice : Bytes) : leBytes slice.length (leValue slice) = slice := by
  induction slice with
  | nil => rfl
  | cons byte rest ih =>
    have small := byte.toNat_lt
    have low : UInt8.ofNat (byte.toNat + 256 * leValue rest) = byte := by
      apply UInt8.toNat_inj.mp
      rw [UInt8.toNat_ofNat']
      omega
    have high : (byte.toNat + 256 * leValue rest) / 256 = leValue rest := by omega
    rw [List.length_cons, leValue, leBytes, low, high, ih]

/-- The first byte shifted by `shift`, the next ones by eight more each, and all of them joined with `|`. -/
def orBytes (shift : Nat) : Bytes → Nat
  | [] => 0
  | byte :: rest => byte.toNat <<< shift ||| orBytes (shift + 8) rest

theorem orBytes_shifted (shift : Nat) (slice : Bytes) : orBytes shift slice = leValue slice <<< shift := by
  induction slice generalizing shift with
  | nil => exact (Nat.zero_shiftLeft shift).symm
  | cons byte rest ih =>
    have small : byte.toNat <<< shift < 2 ^ (shift + 8) := by
      rw [Nat.shiftLeft_eq, Nat.pow_add, Nat.mul_comm]
      exact Nat.mul_lt_mul_of_pos_left byte.toNat_lt (Nat.two_pow_pos shift)
    rw [orBytes, ih, Nat.or_comm, ← Nat.shiftLeft_add_eq_or_of_lt small, leValue]
    simp only [Nat.shiftLeft_eq, Nat.pow_add]
    ring

theorem orBytes_eq (slice : Bytes) : orBytes 0 slice = leValue slice := by
  rw [orBytes_shifted, Nat.shiftLeft_zero]

def le16 (word : UInt16) : Bytes := leBytes 2 word.toNat
def le32 (word : UInt32) : Bytes := leBytes 4 word.toNat
def le64 (word : UInt64) : Bytes := leBytes 8 word.toNat

/-- `binary.LittleEndian.Uint16` and its siblings, on a slice of the right length. -/
def uint16 (slice : Bytes) : UInt16 := UInt16.ofNat (leValue slice)
def uint32 (slice : Bytes) : UInt32 := UInt32.ofNat (leValue slice)
def uint64 (slice : Bytes) : UInt64 := UInt64.ofNat (leValue slice)

theorem uint16_le16 (word : UInt16) : uint16 (le16 word) = word := by
  unfold uint16 le16
  rw [leValue_of_lt word.toNat_lt, UInt16.ofNat_toNat]

theorem uint32_le32 (word : UInt32) : uint32 (le32 word) = word := by
  unfold uint32 le32
  rw [leValue_of_lt word.toNat_lt, UInt32.ofNat_toNat]

theorem uint64_le64 (word : UInt64) : uint64 (le64 word) = word := by
  unfold uint64 le64
  rw [leValue_of_lt word.toNat_lt, UInt64.ofNat_toNat]

theorem le16_uint16 {slice : Bytes} (size : slice.length = 2) : le16 (uint16 slice) = slice := by
  have small := leValue_lt slice
  rw [size] at small
  have value : (uint16 slice).toNat = leValue slice := UInt16.toNat_ofNat_of_lt' small
  have bytes := leBytes_leValue slice
  rw [size] at bytes
  rw [le16, value, bytes]

theorem le32_uint32 {slice : Bytes} (size : slice.length = 4) : le32 (uint32 slice) = slice := by
  have small := leValue_lt slice
  rw [size] at small
  have value : (uint32 slice).toNat = leValue slice := UInt32.toNat_ofNat_of_lt' small
  have bytes := leBytes_leValue slice
  rw [size] at bytes
  rw [le32, value, bytes]

/-! ### Records -/

/-- Where a member of a record starts. -/
def offsetOf (parts : List Bytes) (k : Nat) : Nat := ((parts.take k).map List.length).sum

theorem flatten_split {parts : List Bytes} {k : Nat} {field : Bytes} (member : parts[k]? = some field) :
    parts.flatten = (parts.take k).flatten ++ field ++ (parts.drop (k + 1)).flatten := by
  obtain ⟨inside, rfl⟩ := List.getElem?_eq_some_iff.mp member
  have whole : parts.take k ++ parts[k] :: parts.drop (k + 1) = parts := by
    rw [← List.drop_eq_getElem_cons inside, List.take_append_drop]
  conv => lhs; rw [← whole]
  rw [List.flatten_append, List.flatten_cons, List.append_assoc]

/-- A member is read at its offset. -/
theorem readRange_member {parts : List Bytes} {k offset : Nat} {field : Bytes} (member : parts[k]? = some field)
    (start : offsetOf parts k = offset) : readRange parts.flatten offset field.length = .ok field := by
  have before : (parts.take k).flatten.length = offset := by rw [List.length_flatten, ← start, offsetOf]
  unfold readRange
  rw [flatten_split member, ← before, if_pos (by simp only [List.length_append]; omega), List.append_assoc,
    List.drop_left, List.take_left]
  rfl

end StbEbpf.Words
