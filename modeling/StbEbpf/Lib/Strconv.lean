import StbEbpf.Lib.Float64
import StbEbpf.Lib.Json

/-! Numbers of Go as JSON literals: unsigned integers, and `float64` values in their shortest form. -/

namespace StbEbpf.Strconv
open CText Access Json Float64

/-! ### Unsigned integers -/

def formatUint (n : Nat) : Numeral := { whole := decimal n }

/-- `ParseUint` takes digits only. -/
def parseUint (limit : Nat) (n : Numeral) : Option Nat :=
  if n.negative ∨ n.fraction ≠ [] ∨ n.exponent ≠ none then none
  else if digitsValue n.whole < limit then some (digitsValue n.whole) else none

theorem decimal_whole (n : Nat) :
    decimal n = [48] ∨ (decimal n).head? ≠ some 48 ∧ decimal n ≠ [] ∧ ∀ byte ∈ decimal n, isDigit byte = true := by
  rcases Nat.eq_zero_or_pos n with rfl | pos
  · exact .inl rfl
  · exact .inr ⟨decimal_head pos, decimal_ne_nil n, fun _ => decimal_digits⟩

theorem formatUint_ok (n : Nat) : (formatUint n).Ok where
  whole := decimal_whole n
  fraction := nofun
  exponent := nofun

theorem parseUint_format {limit n : Nat} (fits : n < limit) : parseUint limit (formatUint n) = some n := by
  unfold parseUint formatUint
  rw [if_neg (by simp), digitsValue_decimal, if_pos fits]

/-! ### Floating point -/

/-- The digits of an exponent; those past ten thousand are not looked at. -/
def exponentDigits (digits : Bytes) : Nat :=
  digits.foldl (fun value byte => if value < 10000 then value * 10 + (byte.toNat - 48) else value) 0

def exponentValue : Option (Bool × Bytes) → Int
  | none => 0
  | some (true, digits) => - (exponentDigits digits : Int)
  | some (false, digits) => exponentDigits digits

/-- A decimal as a quotient. -/
def numerator (m : Nat) (e : Int) : Nat := m * 10 ^ e.toNat

def denominator (e : Int) : Nat := 10 ^ (-e).toNat

/-- All digits of a literal, and the power of ten that the last one counts. -/
def mantissa (n : Numeral) : Nat := digitsValue (n.whole ++ n.fraction)

def power (n : Numeral) : Int := exponentValue n.exponent - n.fraction.length

/-- `none` is a number out of range. -/
def parseFloat (n : Numeral) : Option UInt64 :=
  let b := nearest (numerator (mantissa n) (power n)) (denominator (power n))
  if b < infinity then some (if n.negative then (2 ^ 63 + b).toUInt64 else b.toUInt64) else none

/-- Zeros at the end of the digits are counted instead. -/
def trim : (fuel digits zeros : Nat) → Nat × Nat
  | 0, m, s => (m, s)
  | fuel + 1, m, s => if m % 10 = 0 then trim fuel (m / 10) (s + 1) else (m, s)

/-- `%e` of the digits of `m`, with the point before the digit `point`. -/
def scientific (m : Nat) (point : Int) : Numeral where
  whole := (decimal m).take 1
  fraction := (decimal m).drop 1
  exponent := some (decide (point - 1 < 0), decimal (point - 1).natAbs)

/-- `%f` of the same. -/
def positional (m : Nat) (point : Int) : Numeral :=
  let digits := decimal m
  if point ≤ 0 then { whole := [48], fraction := List.replicate (-point).toNat 48 ++ digits }
  else
    { whole := digits.take point.toNat ++ List.replicate (point.toNat - digits.length) 48,
      fraction := digits.drop point.toNat }

/-- The shortest decimal, with an exponent if it is below `1e-6` or not below `1e21`. -/
def formatMagnitude (b : Nat) : Numeral :=
  if b = 0 then { whole := [48] }
  else
    match shortest b with
    | none => { whole := [48] }
    | some (d, s) =>
      let trimmed := trim 17 d s
      let point : Int := (decimal trimmed.1).length + trimmed.2 - places
      if b < nearest 1 (10 ^ 6) ∨ nearest (10 ^ 21) 1 ≤ b then scientific trimmed.1 point
      else positional trimmed.1 point

def signed (negative : Bool) (n : Numeral) : Numeral := { n with negative }

/-- `none` is an infinity or not a number. -/
def formatFloat (bits : UInt64) : Option Numeral :=
  let b := bits.toNat % 2 ^ 63
  if infinity ≤ b then none else some (signed (2 ^ 63 ≤ bits.toNat) (formatMagnitude b))

/-! ### What is read of what was written -/

theorem trim_value (fuel m s : Nat) : (trim fuel m s).1 * 10 ^ (trim fuel m s).2 = m * 10 ^ s := by
  induction fuel generalizing m s with
  | zero => rfl
  | succ fuel ih =>
    rw [trim]
    split
    · rename_i zero
      rw [ih, Nat.pow_succ, Nat.mul_comm (10 ^ s), ← Nat.mul_assoc, Nat.div_mul_cancel (Nat.dvd_of_mod_eq_zero zero)]
    · rfl

/-- Moving the point does not change the quotient. -/
theorem nearest_quotient (m s : Nat) :
    nearest (numerator m (s - places)) (denominator (s - places)) = nearest (m * 10 ^ s) tenth := by
  unfold numerator denominator
  rcases Nat.le_total places s with large | small
  · have shifted : 10 ^ (s - places) * tenth = 10 ^ s := by
      unfold tenth
      rw [← Nat.pow_add, Nat.sub_add_cancel large]
    rw [show ((s : Int) - places).toNat = s - places by omega, show (-((s : Int) - places)).toNat = 0 by omega,
      Nat.pow_zero, ← nearest_scale _ _ tenth_pos, Nat.one_mul, Nat.mul_assoc, shifted]
  · have shifted : 10 ^ (places - s) * 10 ^ s = tenth := by
      unfold tenth
      rw [← Nat.pow_add, Nat.sub_add_cancel small]
    have pos : 0 < 10 ^ s := Nat.pow_pos (by decide)
    rw [show ((s : Int) - places).toNat = 0 by omega, show (-((s : Int) - places)).toNat = places - s by omega,
      Nat.pow_zero, Nat.mul_one, ← nearest_scale _ _ pos, shifted]

theorem exponentDigits_eq {digits : Bytes} (small : digitsValue digits < 10000) :
    exponentDigits digits = digitsValue digits := by
  have grows (text : Bytes) (start : Nat) : start ≤ text.foldl (fun value byte => value * 10 + (byte.toNat - 48)) start := by
    induction text generalizing start with
    | nil => exact Nat.le_refl _
    | cons byte text ih => exact Nat.le_trans (by omega) (ih (start * 10 + (byte.toNat - 48)))
  have same (text : Bytes) (start : Nat)
      (small : text.foldl (fun value byte => value * 10 + (byte.toNat - 48)) start < 10000) :
      text.foldl (fun value byte => if value < 10000 then value * 10 + (byte.toNat - 48) else value) start =
        text.foldl (fun value byte => value * 10 + (byte.toNat - 48)) start := by
    induction text generalizing start with
    | nil => rfl
    | cons byte text ih =>
      have here := grows (byte :: text) start
      rw [List.foldl_cons, List.foldl_cons, if_pos (by omega)]
      exact ih _ small
  exact same digits 0 small

theorem exponentValue_decimal {e : Int} (small : e.natAbs < 10000) :
    exponentValue (some (decide (e < 0), decimal e.natAbs)) = e := by
  have value : exponentDigits (decimal e.natAbs) = e.natAbs := by
    rw [exponentDigits_eq (by rwa [digitsValue_decimal]), digitsValue_decimal]
  rcases Int.lt_or_le e 0 with negative | positive
  · rw [decide_eq_true negative, exponentValue, value]
    omega
  · rw [decide_eq_false (by omega), exponentValue, value]
    omega

theorem digits_point (m : Nat) (point : Nat) :
    digitsValue ((decimal m).take point ++ (decimal m).drop point) = m := by
  rw [List.take_append_drop, digitsValue_decimal]

theorem scientific_value {m : Nat} {point : Int} (small : (point - 1).natAbs < 10000) :
    mantissa (scientific m point) = m ∧ power (scientific m point) = point - (decimal m).length := by
  have some_ : 0 < (decimal m).length := List.length_pos_iff.mpr (decimal_ne_nil m)
  refine ⟨digits_point m 1, ?_⟩
  unfold power scientific
  rw [exponentValue_decimal small, List.length_drop]
  omega

/-- Zeros before the point count in the digits, zeros after it in the power. -/
theorem positional_value (m : Nat) (point : Int) :
    numerator (mantissa (positional m point)) (power (positional m point)) = numerator m (point - (decimal m).length) ∧
      denominator (power (positional m point)) = denominator (point - (decimal m).length) := by
  unfold positional
  dsimp only
  split
  · rename_i before
    have digits : digitsValue ([48] ++ (List.replicate (-point).toNat 48 ++ decimal m)) = m := by
      rw [digitsValue_append, digitsValue_append, digitsValue_zeros, digitsValue_decimal]
      simp [digitsValue]
    have exponent : (0 : Int) - (List.replicate (-point).toNat 48 ++ decimal m : Bytes).length =
        point - (decimal m).length := by
      rw [List.length_append, List.length_replicate]
      omega
    unfold mantissa power
    rw [digits, exponentValue, exponent]
    exact ⟨rfl, rfl⟩
  · rename_i after
    unfold mantissa power
    dsimp only [exponentValue]
    rcases Nat.lt_or_ge point.toNat (decimal m).length with inside | behind
    · rw [Nat.sub_eq_zero_of_le (Nat.le_of_lt inside), List.replicate_zero, List.append_nil, digits_point,
        List.length_drop, show (0 : Int) - ((decimal m).length - point.toNat : Nat) = point - (decimal m).length by omega]
      exact ⟨rfl, rfl⟩
    · rw [List.take_of_length_le behind, List.drop_of_length_le behind, List.append_nil, digitsValue_append,
        digitsValue_zeros, digitsValue_decimal, List.length_replicate, List.length_nil]
      unfold numerator denominator
      rw [show (point - (decimal m).length).toNat = point.toNat - (decimal m).length by omega,
        show (-(point - (decimal m).length)).toNat = 0 by omega]
      exact ⟨by simp, rfl⟩

theorem scientific_ok {m : Nat} (pos : 0 < m) (point : Int) : (scientific m point).Ok where
  whole := by
    obtain ⟨byte, rest, digits⟩ := List.exists_cons_of_ne_nil (decimal_ne_nil m)
    have head := decimal_head pos
    have digit : isDigit byte = true := decimal_digits (n := m) (digits ▸ List.mem_cons_self)
    unfold scientific
    rw [digits] at head ⊢
    exact .inr ⟨head, nofun, by simpa using digit⟩
  fraction byte member := decimal_digits (List.mem_of_mem_drop member)
  exponent negative digits same := by
    obtain ⟨-, rfl⟩ := Prod.mk.inj (Option.some.inj same)
    exact ⟨decimal_ne_nil _, fun _ => decimal_digits⟩

theorem positional_ok {m : Nat} (pos : 0 < m) (point : Int) : (positional m point).Ok := by
  have zeros (count : Nat) (byte : UInt8) (member : byte ∈ List.replicate count 48) : isDigit byte = true := by
    rw [List.eq_of_mem_replicate member]
    decide
  unfold positional
  dsimp only
  split
  · refine ⟨.inl rfl, fun byte member => ?_, nofun⟩
    rcases List.mem_append.mp member with zero | digit
    · exact zeros _ byte zero
    · exact decimal_digits digit
  · rename_i after
    obtain ⟨k, here⟩ : ∃ k, point.toNat = k + 1 := ⟨point.toNat - 1, by omega⟩
    obtain ⟨first, rest, digits⟩ := List.exists_cons_of_ne_nil (decimal_ne_nil m)
    have head := decimal_head pos
    refine ⟨.inr ⟨?_, ?_, fun byte member => ?_⟩, fun byte member => decimal_digits (List.mem_of_mem_drop member), nofun⟩
    · rw [here]
      rw [digits] at head ⊢
      exact head
    · rw [here, digits]
      nofun
    · rcases List.mem_append.mp member with digit | zero
      · exact decimal_digits (List.mem_of_mem_take digit)
      · exact zeros _ byte zero

theorem pow_length_le {m : Nat} (pos : 0 < m) : 10 ^ ((decimal m).length - 1) ≤ m := by
  have length : (decimal m).length = (Nat.toDigits 10 m).length := List.length_map ..
  rcases Nat.eq_zero_or_pos ((decimal m).length - 1) with zero | more
  · rw [zero]
    exact pos
  · by_contra less
    have short := (Nat.length_toDigits_le_iff (by decide) more).mpr (Nat.lt_of_not_le less)
    omega

/-- The point of a finite number is not far from its digits. -/
theorem point_small {m s : Nat} (pos : 0 < m) (finite : nearest (m * 10 ^ s) tenth < infinity) :
    (decimal m).length + s ≤ 1000 := by
  have some_ : 0 < (decimal m).length := List.length_pos_iff.mpr (decimal_ne_nil m)
  have top : magnitude (2 ^ 63) * tenth ≤ 10 ^ 1000 * one := by decide +kernel
  have value : m * 10 ^ s < 10 ^ 1000 := Nat.lt_of_mul_lt_mul_right (Nat.lt_of_lt_of_le (lt_of_nearest finite) top)
  have digits : 10 ^ ((decimal m).length - 1 + s) < 10 ^ 1000 := by
    rw [Nat.pow_add]
    exact Nat.lt_of_le_of_lt (Nat.mul_le_mul_right _ (pow_length_le pos)) value
  have exponents := (Nat.pow_lt_pow_iff_right (by decide)).mp digits
  omega

/-- The parts that a literal is put together from. -/
theorem formatMagnitude_eq {b : Nat} (pos : 0 < b) (finite : b < infinity) :
    ∃ m s : Nat, 0 < m ∧ nearest (m * 10 ^ s) tenth = b ∧
      (let point : Int := (decimal m).length + s - places
       formatMagnitude b = scientific m point ∨ formatMagnitude b = positional m point) := by
  obtain ⟨d, s, found⟩ := exists_shortest pos finite
  have reads := shortest_reads found
  rw [← trim_value 17] at reads
  refine ⟨(trim 17 d s).1, (trim 17 d s).2, ?_, reads, ?_⟩
  · refine Nat.pos_of_ne_zero fun zero => ?_
    rw [zero, Nat.zero_mul, nearest_zero tenth_pos] at reads
    omega
  · unfold formatMagnitude
    rw [if_neg (Nat.ne_of_gt pos), found]
    dsimp only
    split
    · exact .inl rfl
    · exact .inr rfl

theorem formatMagnitude_ok (b : Nat) (finite : b < infinity) : (formatMagnitude b).Ok := by
  rcases Nat.eq_zero_or_pos b with rfl | pos
  · exact ⟨.inl rfl, nofun, nofun⟩
  · obtain ⟨m, s, some_, -, form⟩ := formatMagnitude_eq pos finite
    rcases form with form | form
    · rw [form]
      exact scientific_ok some_ _
    · rw [form]
      exact positional_ok some_ _

theorem formatMagnitude_reads {b : Nat} (finite : b < infinity) :
    nearest (numerator (mantissa (formatMagnitude b)) (power (formatMagnitude b)))
      (denominator (power (formatMagnitude b))) = b := by
  rcases Nat.eq_zero_or_pos b with rfl | pos
  · exact nearest_zero (by decide)
  · obtain ⟨m, s, some_, reads, form⟩ := formatMagnitude_eq pos finite
    have quotient : nearest (numerator m (((decimal m).length + s - places : Int) - (decimal m).length))
        (denominator (((decimal m).length + s - places : Int) - (decimal m).length)) = b := by
      rw [show ((decimal m).length + s - places : Int) - (decimal m).length = s - places by omega, nearest_quotient, reads]
    rcases form with form | form
    · have small : ((decimal m).length + s - places - 1 : Int).natAbs < 10000 := by
        have bound := point_small some_ (reads ▸ finite)
        unfold places
        omega
      obtain ⟨digits, exponent⟩ := scientific_value (m := m) small
      rw [form, digits, exponent]
      exact quotient
    · obtain ⟨above, below⟩ := positional_value m ((decimal m).length + s - places)
      rw [form, above, below]
      exact quotient

theorem parseFloat_nearest {n : Numeral} {b : Nat} (finite : b < infinity)
    (reads : nearest (numerator (mantissa n) (power n)) (denominator (power n)) = b) :
    parseFloat n = some (if n.negative then (2 ^ 63 + b).toUInt64 else b.toUInt64) := by
  unfold parseFloat
  rw [reads, if_pos finite]

theorem formatFloat_eq_some {bits : UInt64} {n : Numeral} (written : formatFloat bits = some n) :
    bits.toNat % 2 ^ 63 < infinity ∧ n = signed (2 ^ 63 ≤ bits.toNat) (formatMagnitude (bits.toNat % 2 ^ 63)) := by
  unfold formatFloat at written
  dsimp only at written
  split at written
  · cases written
  · exact ⟨by omega, (Option.some.inj written).symm⟩

theorem formatFloat_ok {bits : UInt64} {n : Numeral} (written : formatFloat bits = some n) : n.Ok := by
  obtain ⟨finite, rfl⟩ := formatFloat_eq_some written
  obtain ⟨whole, fraction, exponent⟩ := formatMagnitude_ok _ finite
  exact ⟨whole, fraction, exponent⟩

/-- A number is read back from what is written for it. -/
theorem parseFloat_format {bits : UInt64} {n : Numeral} (written : formatFloat bits = some n) :
    parseFloat n = some bits := by
  obtain ⟨finite, same⟩ := formatFloat_eq_some written
  have range := bits.toNat_lt
  rw [parseFloat_nearest finite (by rw [same]; exact formatMagnitude_reads finite)]
  by_cases negative : 2 ^ 63 ≤ bits.toNat
  · have sign : n.negative = true := same ▸ decide_eq_true negative
    rw [if_pos sign, show 2 ^ 63 + bits.toNat % 2 ^ 63 = bits.toNat by omega]
    exact congrArg some UInt64.ofNat_toNat
  · have sign : n.negative = false := same ▸ decide_eq_false negative
    rw [if_neg (by rw [sign]; nofun), Nat.mod_eq_of_lt (by omega)]
    exact congrArg some UInt64.ofNat_toNat

end StbEbpf.Strconv
