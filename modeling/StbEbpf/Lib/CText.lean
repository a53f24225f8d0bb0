import Mathlib

/-!
C text: NUL-terminated strings, fixed `char` arrays and the formatting calls that fill them.
Texts are byte lists without their terminator.
-/

namespace StbEbpf.CText

abbrev Bytes := List UInt8

def ascii (text : String) : Bytes := text.toList.map fun c => c.toNat.toUInt8

/-- A literal by its characters, which takes the kernel no decoding. -/
theorem ascii_ofList (text : List Char) : ascii (String.ofList text) = text.map fun c => c.toNat.toUInt8 := by
  rw [ascii, String.toList_ofList]

-- What `%s` prints of a byte sequence.
def cut (src : Bytes) : Bytes := src.takeWhile (· != 0)

theorem cut_noNul (src : Bytes) : 0 ∉ cut src := by
  intro member
  have kept := List.mem_takeWhile_imp member
  simp at kept

theorem cut_eq_self {src : Bytes} (noNul : 0 ∉ src) : cut src = src := by
  apply List.takeWhile_eq_self_iff.mpr
  intro byte member
  simp only [bne_iff_ne, ne_eq]
  rintro rfl
  exact noNul member

structure CStr where
  bytes : Bytes
  noNul : 0 ∉ bytes
  deriving DecidableEq, Repr

def CStr.ofBytes (src : Bytes) : CStr := ⟨cut src, cut_noNul src⟩

/-- The contents of a `char[size]` that holds a terminated string. -/
structure CharBuf (size : Nat) where
  bytes : Bytes
  noNul : 0 ∉ bytes
  fits : bytes.length ≤ size - 1
  deriving DecidableEq, Repr

namespace CharBuf
variable {size : Nat}

def zero : CharBuf size := ⟨[], by simp, Nat.zero_le _⟩

instance : Inhabited (CharBuf size) := ⟨zero⟩

-- `strncpy(dst, src, sizeof(dst) - 1)` over an array whose last byte is NUL.
def strncpy (src : Bytes) : CharBuf size where
  bytes := (cut src).take (size - 1)
  noNul := fun member => cut_noNul src (List.mem_of_mem_take member)
  fits := List.length_take_le _ _

-- `snprintf(dst, sizeof(dst), ...)` of the formatted text.
def snprintf (text : Bytes) : CharBuf size := strncpy text

end CharBuf

-- `%u` and `%llu`.
def decimal (n : Nat) : Bytes := (Nat.toDigits 10 n).map fun c => c.toNat.toUInt8

-- `%d`.
def decimalInt : Int → Bytes
  | .ofNat n => decimal n
  | .negSucc n => ascii "-" ++ decimal (n + 1)

theorem noNul_append {left right : Bytes} (one : 0 ∉ left) (two : 0 ∉ right) : 0 ∉ left ++ right := by
  intro member
  rcases List.mem_append.mp member with first | second
  · exact one first
  · exact two second

theorem decimal_noNul (n : Nat) : 0 ∉ decimal n := by
  intro member
  obtain ⟨c, digit, zero⟩ := List.mem_map.mp member
  have range := Nat.isDigit_of_mem_toDigits (by decide) (by decide) digit
  simp only [Char.isDigit, ge_iff_le, Bool.and_eq_true, decide_eq_true_eq, UInt32.le_iff_toNat_le] at range
  have low : 48 ≤ c.toNat := range.1
  have high : c.toNat ≤ 57 := range.2
  have value := congrArg UInt8.toNat zero
  rw [UInt8.toNat_ofNat_of_lt' (by show c.toNat < 256; omega)] at value
  have nothing : c.toNat = 0 := value
  omega

/-- The magnitude of a finite double in tenths, rounded to nearest with ties to even. -/
def tenths (bits : UInt64) : Nat :=
  let exponent := (bits.toNat / 2 ^ 52) % 2 ^ 11
  let fraction := bits.toNat % 2 ^ 52
  let significand := if exponent = 0 then fraction else 2 ^ 52 + fraction
  -- The value is `significand * 2 ^ (scale - 1075)`.
  let scale := if exponent = 0 then 1 else exponent
  if 1075 ≤ scale then significand * 2 ^ (scale - 1075) * 10
  else
    let unit := 2 ^ (1075 - scale)
    let quotient := significand * 10 / unit
    let rest := significand * 10 % unit
    if 2 * rest > unit ∨ (2 * rest = unit ∧ quotient % 2 = 1) then quotient + 1 else quotient

-- `%.1f` of the IEEE double with these bits.
def fixed1 (bits : UInt64) : Bytes :=
  let sign := if bits.toNat / 2 ^ 63 = 1 then ascii "-" else []
  if (bits.toNat / 2 ^ 52) % 2 ^ 11 = 2 ^ 11 - 1 then
    sign ++ if bits.toNat % 2 ^ 52 = 0 then ascii "inf" else ascii "nan"
  else sign ++ decimal (tenths bits / 10) ++ ascii "." ++ decimal (tenths bits % 10)

theorem fixed1_noNul (bits : UInt64) : 0 ∉ fixed1 bits := by
  have sign : 0 ∉ (if bits.toNat / 2 ^ 63 = 1 then ascii "-" else []) := by split <;> decide
  unfold fixed1
  dsimp only
  split
  · apply noNul_append sign
    split <;> decide
  · exact noNul_append (noNul_append (noNul_append sign (decimal_noNul _)) (by decide)) (decimal_noNul _)

/-- What `snprintf` stores into a region of `size` bytes: the text cut to leave room for the NUL. -/
def stored (size : Nat) (text : Bytes) : Bytes :=
  if size = 0 then [] else text.take (size - 1) ++ [0]

theorem stored_length_le (size : Nat) (text : Bytes) : (stored size text).length ≤ size := by
  unfold stored
  split
  · simp
  · simp only [List.length_append, List.length_take, List.length_singleton]
    omega

end StbEbpf.CText
