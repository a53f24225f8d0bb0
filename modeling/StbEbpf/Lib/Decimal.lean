import StbEbpf.Lib.Access

/-! Decimal numbers as text: the digits of a number, and texts that are taken apart at a separator. -/

namespace StbEbpf.CText
open Access

def digitsValue (text : Bytes) : Nat := text.foldl (fun value byte => value * 10 + (byte.toNat - 48)) 0

theorem digit_range {c : Char} {n : Nat} (digit : c ∈ Nat.toDigits 10 n) : 48 ≤ c.toNat ∧ c.toNat ≤ 57 := by
  have range := Nat.isDigit_of_mem_toDigits (by decide) (by decide) digit
  simp only [Char.isDigit, ge_iff_le, Bool.and_eq_true, decide_eq_true_eq, UInt32.le_iff_toNat_le] at range
  exact range

theorem digit_byte {c : Char} (small : c.toNat ≤ 57) : c.toNat.toUInt8.toNat = c.toNat :=
  UInt8.toNat_ofNat_of_lt' (by show c.toNat < 256; omega)

theorem decimal_digits {n : Nat} {byte : UInt8} (member : byte ∈ decimal n) : isDigit byte = true := by
  obtain ⟨c, digit, rfl⟩ := List.mem_map.mp member
  obtain ⟨low, high⟩ := digit_range digit
  have value := digit_byte high
  unfold isDigit
  rw [decide_eq_true_eq, UInt8.le_iff_toNat_le, UInt8.le_iff_toNat_le, value]
  exact ⟨low, high⟩

theorem decimal_ne_nil (n : Nat) : decimal n ≠ [] := by
  unfold decimal
  rw [Ne, List.map_eq_nil_iff]
  exact Nat.toDigits_ne_nil

theorem digitsValue_decimal (n : Nat) : digitsValue (decimal n) = n := by
  have read : digitsValue (decimal n) = Nat.ofDigitChars 10 (Nat.toDigits 10 n) 0 := by
    unfold digitsValue decimal
    rw [List.foldl_map, Nat.ofDigitChars_eq_foldl]
    apply List.foldl_ext
    intro value c digit
    rw [digit_byte (digit_range digit).2, Nat.mul_comm]
    rfl
  rw [read, Nat.ofDigitChars_ten_toDigits]

theorem digitsValue_append (first second : Bytes) :
    digitsValue (first ++ second) = digitsValue first * 10 ^ second.length + digitsValue second := by
  have from_ (text : Bytes) (start : Nat) :
      text.foldl (fun value byte => value * 10 + (byte.toNat - 48)) start = start * 10 ^ text.length + digitsValue text := by
    induction text generalizing start with
    | nil => simp [digitsValue]
    | cons byte text ih =>
      unfold digitsValue
      rw [List.foldl_cons, List.foldl_cons, ih, ih (0 * 10 + _), List.length_cons, Nat.pow_succ]
      ring
  unfold digitsValue
  rw [List.foldl_append, from_ second]
  rfl

theorem digitsValue_zeros (count : Nat) : digitsValue (List.replicate count 48) = 0 := by
  induction count with
  | zero => rfl
  | succ count ih =>
    rw [List.replicate_succ', digitsValue_append, ih]
    rfl

theorem decimal_head {n : Nat} (pos : 0 < n) : (decimal n).head? ≠ some 48 := by
  induction n using Nat.strongRecOn with
  | ind n ih =>
    by_cases small : n < 10
    · unfold decimal
      rw [Nat.toDigits_of_lt_base small]
      interval_cases n <;> decide
    · have split : decimal n = decimal (n / 10) ++ [(n % 10).digitChar.toNat.toUInt8] := by
        unfold decimal
        rw [Nat.toDigits_of_base_le (by decide) (by omega), List.map_append]
        rfl
      rw [split, List.head?_append_of_ne_nil _ (decimal_ne_nil _)]
      exact ih (n / 10) (by omega) (by omega)

/-- A number of at least `w` digits, with zeros in front. -/
def appendInt (n w : Nat) : Bytes := List.replicate (w - (decimal n).length) 48 ++ decimal n

theorem length_appendInt {n w : Nat} (pos : 0 < w) (fits : n < 10 ^ w) :
    (appendInt n w).length = w := by
  have short : (decimal n).length ≤ w := by
    unfold decimal
    rw [List.length_map]
    exact (Nat.length_toDigits_le_iff (by decide) pos).mpr fits
  unfold appendInt
  rw [List.length_append, List.length_replicate]
  omega

theorem appendInt_digits {n w : Nat} {byte : UInt8} (member : byte ∈ appendInt n w) : isDigit byte = true := by
  rcases List.mem_append.mp member with zero | digit
  · rw [List.eq_of_mem_replicate zero]
    decide
  · exact decimal_digits digit

theorem digitsValue_appendInt (n w : Nat) : digitsValue (appendInt n w) = n := by
  unfold appendInt
  rw [digitsValue_append, digitsValue_zeros, Nat.zero_mul, Nat.zero_add, digitsValue_decimal]

theorem decimal_injective {m n : Nat} (same : decimal m = decimal n) : m = n := by
  rw [← digitsValue_decimal m, ← digitsValue_decimal n, same]

/-- A separator that occurs in neither first part tells where the parts end. -/
theorem split_at {first second rest more : Bytes} {separator : UInt8} (left : separator ∉ first)
    (right : separator ∉ second) (same : first ++ separator :: rest = second ++ separator :: more) :
    first = second ∧ rest = more := by
  induction first generalizing second with
  | nil =>
    cases second with
    | nil => exact ⟨rfl, (List.cons.inj same).2⟩
    | cons byte second => exact absurd ((List.cons.inj same).1 ▸ List.mem_cons_self) right
  | cons byte first ih =>
    cases second with
    | nil => exact absurd ((List.cons.inj same).1.symm ▸ List.mem_cons_self) left
    | cons other second =>
      obtain ⟨head, tail⟩ := List.cons.inj same
      obtain ⟨parts, ends⟩ := ih (List.not_mem_of_not_mem_cons left) (List.not_mem_of_not_mem_cons right) tail
      exact ⟨by rw [head, parts], ends⟩

theorem decimal_split {m n : Nat} {rest more : Bytes} {separator : UInt8} (outside : isDigit separator = false)
    (same : decimal m ++ separator :: rest = decimal n ++ separator :: more) : m = n ∧ rest = more := by
  have absent (k : Nat) : separator ∉ decimal k := fun member => by
    rw [decimal_digits member] at outside
    cases outside
  obtain ⟨numbers, ends⟩ := split_at (absent m) (absent n) same
  exact ⟨decimal_injective numbers, ends⟩

end StbEbpf.CText
