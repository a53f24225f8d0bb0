import StbEbpf.Lib.Words

/-! Machine words in network order: the byte of the highest value comes first. -/

namespace StbEbpf.NetworkOrder
open CText Access Words

def bytes16 (word : UInt16) : Bytes := (le16 word).reverse
def bytes32 (word : UInt32) : Bytes := (le32 word).reverse

/-- `binary.BigEndian.Uint16` and `Uint32`, on a slice of the right length. -/
def word16 (slice : Bytes) : UInt16 := uint16 slice.reverse
def word32 (slice : Bytes) : UInt32 := uint32 slice.reverse

def readWord16 (data : Bytes) (offset : Nat) : Checked UInt16 := word16 <$> readRange data offset 2
def readWord32 (data : Bytes) (offset : Nat) : Checked UInt32 := word32 <$> readRange data offset 4

theorem bytes16_length (word : UInt16) : (bytes16 word).length = 2 := by
  rw [bytes16, List.length_reverse, le16, leBytes_length]

theorem bytes32_length (word : UInt32) : (bytes32 word).length = 4 := by
  rw [bytes32, List.length_reverse, le32, leBytes_length]

theorem word16_bytes16 (word : UInt16) : word16 (bytes16 word) = word := by
  rw [word16, bytes16, List.reverse_reverse, uint16_le16]

theorem word32_bytes32 (word : UInt32) : word32 (bytes32 word) = word := by
  rw [word32, bytes32, List.reverse_reverse, uint32_le32]

theorem bytes16_word16 {slice : Bytes} (size : slice.length = 2) : bytes16 (word16 slice) = slice := by
  rw [bytes16, word16, le16_uint16 (by rwa [List.length_reverse]), List.reverse_reverse]

theorem word16_toNat (high low : UInt8) : (word16 [high, low]).toNat = high.toNat * 256 + low.toNat := by
  have one := high.toNat_lt
  have two := low.toNat_lt
  show (UInt16.ofNat (low.toNat + 256 * (high.toNat + 256 * 0))).toNat = _
  rw [UInt16.toNat_ofNat_of_lt' (by show _ < 65536; omega)]
  omega

section
variable {data rest : Bytes} {offset : Nat}

theorem readRange_inside {count : Nat} (inside : offset + count ≤ data.length) :
    readRange data offset count = .ok ((data.drop offset).take count) := if_pos inside

theorem readWord16_inside (inside : offset + 2 ≤ data.length) :
    readWord16 data offset = .ok (word16 ((data.drop offset).take 2)) := by
  rw [readWord16, readRange_inside inside]
  rfl

theorem readWord32_inside (inside : offset + 4 ≤ data.length) :
    readWord32 data offset = .ok (word32 ((data.drop offset).take 4)) := by
  rw [readWord32, readRange_inside inside]
  rfl

theorem completes_readWord16 (inside : offset + 2 ≤ data.length) : Completes (readWord16 data offset) :=
  ⟨_, readWord16_inside inside, trivial⟩

/-- A field that is known to lie at the offset. -/
theorem readRange_at {field : Bytes} (here : data.drop offset = field ++ rest) {count : Nat}
    (size : field.length = count) (inside : offset ≤ data.length) : readRange data offset count = .ok field := by
  have length := congrArg List.length here
  rw [List.length_drop, List.length_append] at length
  rw [readRange_inside (by omega), here, ← size, List.take_left]

theorem readWord16_at {word : UInt16} (here : data.drop offset = bytes16 word ++ rest) (inside : offset ≤ data.length) :
    readWord16 data offset = .ok word := by
  rw [readWord16, readRange_at here (bytes16_length word) inside]
  exact congrArg Except.ok (word16_bytes16 word)

theorem readWord32_at {word : UInt32} (here : data.drop offset = bytes32 word ++ rest) (inside : offset ≤ data.length) :
    readWord32 data offset = .ok word := by
  rw [readWord32, readRange_at here (bytes32_length word) inside]
  exact congrArg Except.ok (word32_bytes32 word)

end

theorem length_words (words : List UInt16) : (words.flatMap bytes16).length = 2 * words.length := by
  induction words with
  | nil => rfl
  | cons word words ih =>
    rw [List.flatMap_cons, List.length_append, bytes16_length, ih, List.length_cons]
    omega

/-- The words of a header, by their number. -/
theorem readWord16_words {words : List UInt16} {k : Nat} {word : UInt16} (member : words[k]? = some word)
    (rest : Bytes) : readWord16 (words.flatMap bytes16 ++ rest) (2 * k) = .ok word := by
  obtain ⟨inside, rfl⟩ := List.getElem?_eq_some_iff.mp member
  have before : ((words.take k).flatMap bytes16).length = 2 * k := by
    rw [length_words, List.length_take, Nat.min_eq_left (Nat.le_of_lt inside)]
  have split : words.flatMap bytes16 ++ rest =
      (words.take k).flatMap bytes16 ++ (bytes16 words[k] ++ ((words.drop (k + 1)).flatMap bytes16 ++ rest)) := by
    conv_lhs => rw [← List.take_append_drop k words, List.drop_eq_getElem_cons inside]
    rw [List.flatMap_append, List.flatMap_cons, List.append_assoc, List.append_assoc]
  refine readWord16_at (?_ : _ = bytes16 words[k] ++ ((words.drop (k + 1)).flatMap bytes16 ++ rest)) ?_
  · rw [split, ← before, List.drop_left]
  · rw [List.length_append, length_words]
    omega

end StbEbpf.NetworkOrder
