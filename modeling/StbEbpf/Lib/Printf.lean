import StbEbpf.Lib.Decimal

/-! Columns of formatted output: numbers with a field width, and how long a text made of them is. -/

namespace StbEbpf.CText
open Access

-- `%wd` and `%wu` of a number that is not negative.
def padded (width value : Nat) : Bytes := List.replicate (width - (decimal value).length) 32 ++ decimal value

def hexDigit (digit : Nat) : UInt8 := UInt8.ofNat (if digit < 10 then 48 + digit else 55 + digit)

/-- The last `count` hexadecimal digits of a number. -/
def hexDigits (value : Nat) : Nat → Bytes
  | 0 => []
  | count + 1 => hexDigit (value / 16 ^ count % 16) :: hexDigits value count

-- `%0wX`.
def hexPadded (width value : Nat) : Bytes := hexDigits value (max width (Nat.log 16 value + 1))

/-- A text of at most `limit` bytes that stays on its line. -/
structure OnLine (limit : Nat) (text : Bytes) : Prop where
  length : text.length ≤ limit
  single : 10 ∉ text

theorem onLine_append {first second : Bytes} {m n : Nat} (left : OnLine m first) (right : OnLine n second) :
    OnLine (m + n) (first ++ second) := by
  refine ⟨?_, ?_⟩
  · rw [List.length_append]
    exact Nat.add_le_add left.length right.length
  · intro member
    exact (List.mem_append.mp member).elim left.single right.single

theorem OnLine.mono {text : Bytes} {m n : Nat} (fits : OnLine m text) (wider : m ≤ n) : OnLine n text :=
  ⟨fits.length.trans wider, fits.single⟩

theorem onLine_flatten {parts : List Bytes} {limit : Nat} (each : ∀ part ∈ parts, OnLine limit part) :
    OnLine (parts.length * limit) parts.flatten := by
  induction parts with
  | nil => exact ⟨Nat.zero_le _, by simp⟩
  | cons part rest ih =>
    have joined := onLine_append (each part List.mem_cons_self) (ih fun other member => each other (by simp [member]))
    rw [List.flatten_cons]
    exact joined.mono (by rw [List.length_cons, Nat.succ_mul]; omega)

theorem onLine_decimal {value digits : Nat} (some_ : 0 < digits) (small : value < 10 ^ digits) :
    OnLine digits (decimal value) := by
  refine ⟨?_, ?_⟩
  · unfold decimal
    rw [List.length_map]
    exact (Nat.length_toDigits_le_iff (by decide) some_).mpr small
  · intro member
    exact absurd (decimal_digits member) (by decide)

theorem onLine_padded {width value digits : Nat} (some_ : 0 < digits) (small : value < 10 ^ digits) :
    OnLine (max width digits) (padded width value) := by
  obtain ⟨length, single⟩ := onLine_decimal some_ small
  refine ⟨?_, ?_⟩
  · unfold padded
    rw [List.length_append, List.length_replicate]
    omega
  · intro member
    rcases List.mem_append.mp member with blank | digit
    · exact absurd (List.eq_of_mem_replicate blank) (by decide)
    · exact single digit

theorem hexDigit_visible {digit : Nat} (small : digit < 16) : hexDigit digit ≠ 10 := by
  have all : ∀ digit < 16, hexDigit digit ≠ 10 := by decide
  exact all digit small

theorem onLine_hexDigits (value count : Nat) : OnLine count (hexDigits value count) := by
  induction count with
  | zero => exact ⟨Nat.le_refl 0, by simp [hexDigits]⟩
  | succ count ih =>
    refine ⟨by simpa [hexDigits] using ih.length, ?_⟩
    intro member
    rcases List.mem_cons.mp member with first | later
    · exact hexDigit_visible (Nat.mod_lt _ (by decide)) first.symm
    · exact ih.single later

theorem onLine_hexPadded {width value digits : Nat} (some_ : 0 < digits) (small : value < 16 ^ digits) :
    OnLine (max width digits) (hexPadded width value) := by
  have few : Nat.log 16 value < digits := Nat.log_lt_of_lt_pow' (by omega) small
  obtain ⟨length, single⟩ := onLine_hexDigits value (max width (Nat.log 16 value + 1))
  exact ⟨length.trans (by omega), single⟩

end StbEbpf.CText
