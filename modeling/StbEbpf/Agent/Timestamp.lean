import StbEbpf.Agent.Event
import StbEbpf.Lib.Calendar
import StbEbpf.Lib.Json
import StbEbpf.Lib.Padding

/-!
A `time.Time` as RFC 3339 text, as its `MarshalJSON` writes and its `UnmarshalJSON` reads it. The text has the offset
of the zone in minutes only.
-/

namespace StbEbpf.Agent
open CText Access Json Calendar

/-- Seconds of the clock on the wall, from 1970. -/
def Time.wall (t : Time) : Int := t.seconds + t.zone

def Time.date (t : Time) : Date := Calendar.date (t.wall / 86400 + 719468)

/-- `appendNano`, which drops the zeros at the end. -/
def appendNano (nanos : Nat) : Bytes :=
  if nanos = 0 then [] else 46 :: (appendInt nanos 9).rdropWhile (· == 48)

def appendZone (zone : Int) : Bytes :=
  if zone = 0 then [90]
  else
    -- Division is towards zero.
    let minutes := zone.tdiv 60
    (if minutes < 0 then 45 else 43) :: appendInt (minutes.natAbs / 60) 2 ++ 58 :: appendInt (minutes.natAbs % 60) 2

def appendFormatRFC3339 (t : Time) : Bytes :=
  appendInt t.date.year.toNat 4 ++ 45 :: appendInt t.date.month.toNat 2 ++ 45 :: appendInt t.date.day.toNat 2 ++
    84 :: appendInt (t.wall % 86400 / 3600).toNat 2 ++ 58 :: appendInt (t.wall % 3600 / 60).toNat 2 ++
    58 :: appendInt (t.wall % 60).toNat 2 ++ (appendNano t.nanos ++ appendZone t.zone)

/-- An error for a year that has not four digits and for a zone that is a day away. -/
def appendStrictRFC3339 (t : Time) : Option Bytes :=
  if t.date.year < 0 ∨ 9999 < t.date.year then none
  else if 24 ≤ (t.zone.tdiv 60).natAbs / 60 then none
  else some (appendFormatRFC3339 t)

/-- Digits between two places of the text, for a number in a range. -/
def parseField (text : Bytes) (start stop : Nat) (low high : Int) : Option Int :=
  let digits := (text.take stop).drop start
  if digits.all isDigit ∧ low ≤ digitsValue digits ∧ digitsValue digits ≤ high then some (digitsValue digits) else none

/-- At most nine digits count. -/
def parseNanoseconds (digits : Bytes) : Nat :=
  digitsValue (digits.take 9) * 10 ^ (9 - (digits.take 9).length)

def parseFraction (text : Bytes) : Nat × Bytes :=
  let digits := (text.drop 1).takeWhile isDigit
  if text.head? = some 46 ∧ digits ≠ [] then (parseNanoseconds digits, (text.drop 1).dropWhile isDigit) else (0, text)

def parseZone (text : Bytes) : Option Int :=
  if text = [90] then some 0
  else if text.length ≠ 6 then none
  else do
    let hours ← parseField text 1 3 0 23
    let minutes ← parseField text 4 6 0 59
    if (text[0]? = some 45 ∨ text[0]? = some 43) ∧ text[3]? = some 58 then
      some (if text[0]? = some 45 then - ((hours * 60 + minutes) * 60) else (hours * 60 + minutes) * 60)
    else none

def parseRFC3339 (text : Bytes) : Option Time :=
  if text.length < 19 then none
  else do
    let year ← parseField text 0 4 0 9999
    let month ← parseField text 5 7 1 12
    let day ← parseField text 8 10 1 (daysIn month year)
    let hour ← parseField text 11 13 0 23
    let minute ← parseField text 14 16 0 59
    let second ← parseField text 17 19 0 59
    if text[4]? = some 45 ∧ text[7]? = some 45 ∧ text[10]? = some 84 ∧ text[13]? = some 58 ∧ text[16]? = some 58 then
      let fraction := parseFraction (text.drop 19)
      let zone ← parseZone fraction.2
      let days := Date.days { year, month, day } - 719468
      pure { seconds := days * 86400 + hour * 3600 + minute * 60 + second - zone,
             nanos := Fin.ofNat 1000000000 fraction.1, zone }
    else none

/-! ### Reading what was written -/

theorem appendInt_pair {n : Nat} (fits : n < 100) : ∃ a b, appendInt n 2 = [a, b] :=
  List.length_eq_two.mp (length_appendInt (by decide) fits)

theorem appendInt_quad {n : Nat} (fits : n < 10000) : ∃ a b c d, appendInt n 4 = [a, b, c, d] := by
  have length := length_appendInt (n := n) (w := 4) (by decide) fits
  match digits : appendInt n 4, length with
  | [a, b, c, d], _ => exact ⟨a, b, c, d, rfl⟩

theorem parseField_appendInt {text : Bytes} {start stop n w : Nat} {low high : Int}
    (slice : (text.take stop).drop start = appendInt n w) (least : low ≤ n) (most : n ≤ high) :
    parseField text start stop low high = some (n : Int) := by
  unfold parseField
  dsimp only
  rw [slice, digitsValue_appendInt]
  exact if_pos ⟨List.all_eq_true.mpr fun _ => appendInt_digits, least, most⟩

theorem parseField_toNat {text : Bytes} {start stop w : Nat} {n low high : Int}
    (slice : (text.take stop).drop start = appendInt n.toNat w) (pos : 0 ≤ low) (least : low ≤ n) (most : n ≤ high) :
    parseField text start stop low high = some n := by
  rw [parseField_appendInt slice (by omega) (by omega), Int.toNat_of_nonneg (by omega)]

theorem appendZone_starts (zone : Int) : ∃ first rest, appendZone zone = first :: rest ∧
    (first = 90 ∨ first = 45 ∨ first = 43) := by
  unfold appendZone
  split
  · exact ⟨_, _, rfl, .inl rfl⟩
  · dsimp only
    split
    · exact ⟨_, _, rfl, .inr (.inl rfl)⟩
    · exact ⟨_, _, rfl, .inr (.inr rfl)⟩

theorem parseFraction_appendNano {nanos : Nat} (small : nanos < 1000000000) (zone : Int) :
    parseFraction (appendNano nanos ++ appendZone zone) = (nanos, appendZone zone) := by
  obtain ⟨first, rest, starts, kind⟩ := appendZone_starts zone
  have stops : Breaks isDigit (appendZone zone) := by
    rw [starts]
    apply breaks_cons
    rcases kind with rfl | rfl | rfl <;> decide
  unfold appendNano
  split
  · rename_i zero
    rw [List.nil_append, zero, starts]
    unfold parseFraction
    rw [if_neg]
    rintro ⟨point, -⟩
    rcases kind with rfl | rfl | rfl <;> exact absurd (Option.some.inj point) (by decide)
  · rename_i some_
    have restored := rdropWhile_restore 48 (appendInt nanos 9)
    have length : (appendInt nanos 9).length = 9 := length_appendInt (by decide) small
    have short := (List.rdropWhile_prefix (· == 48) (appendInt nanos 9)).length_le
    have digits : ∀ byte ∈ (appendInt nanos 9).rdropWhile (· == 48), isDigit byte = true := fun byte member =>
      appendInt_digits ((List.rdropWhile_prefix _ _).subset member)
    generalize (appendInt nanos 9).rdropWhile (· == 48) = trimmed at *
    have value : digitsValue trimmed * 10 ^ (9 - trimmed.length) = nanos := by
      have read := digitsValue_appendInt nanos 9
      rw [← restored, digitsValue_append, digitsValue_zeros, List.length_replicate, length] at read
      exact read
    have left : trimmed ≠ [] := by
      rintro rfl
      exact some_ (value.symm.trans (Nat.zero_mul _))
    obtain ⟨taken, dropped⟩ := takeWhile_run digits stops
    unfold parseFraction parseNanoseconds
    dsimp only
    rw [List.cons_append, List.drop_one, List.tail_cons, taken, dropped, List.take_of_length_le (by omega), value]
    exact if_pos ⟨rfl, left⟩

theorem parseZone_appendZone {zone : Int} (near : (zone.tdiv 60).natAbs / 60 < 24) :
    parseZone (appendZone zone) = some (zone.tdiv 60 * 60) := by
  unfold appendZone
  split
  · rename_i zero
    rw [zero]
    rfl
  · dsimp only
    generalize zone.tdiv 60 = minutes at *
    obtain ⟨a, b, hours⟩ := appendInt_pair (n := minutes.natAbs / 60) (by omega)
    obtain ⟨c, d, rest⟩ := appendInt_pair (n := minutes.natAbs % 60) (by omega)
    unfold parseZone
    rw [if_neg (by rw [hours]; simp), if_neg (by rw [hours, rest]; simp),
      parseField_appendInt (n := minutes.natAbs / 60) (w := 2) (by rw [hours]; rfl) (by omega) (by omega),
      parseField_appendInt (n := minutes.natAbs % 60) (w := 2) (by rw [hours, rest]; rfl) (by omega) (by omega)]
    rw [hours, rest]
    dsimp only [Option.bind_eq_bind, Option.bind_some]
    by_cases negative : minutes < 0
    · rw [if_pos negative, if_pos (by simp), if_pos (by simp)]
      exact congrArg some (by omega)
    · rw [if_neg negative, if_pos (by simp), if_neg (by simp)]
      exact congrArg some (by omega)

/-- What is left of a time in the text: seconds of the zone's offset go to the instant. -/
def Time.received (t : Time) : Time where
  seconds := t.seconds + t.zone.tmod 60
  nanos := t.nanos
  zone := t.zone.tdiv 60 * 60

theorem Time.received_eq_iff (t : Time) : t.received = t ↔ t.zone % 60 = 0 := by
  have split := Int.mul_tdiv_add_tmod t.zone 60
  constructor
  · intro same
    have zone : t.zone.tdiv 60 * 60 = t.zone := congrArg Time.zone same
    omega
  · intro minutes
    have none_ : t.zone.tmod 60 = 0 := Int.tmod_eq_zero_of_dvd (Int.dvd_of_emod_eq_zero minutes)
    unfold received
    rw [none_, Int.add_zero, show t.zone.tdiv 60 * 60 = t.zone by omega]

theorem appendStrictRFC3339_eq_some {t : Time} {text : Bytes} (written : appendStrictRFC3339 t = some text) :
    0 ≤ t.date.year ∧ t.date.year ≤ 9999 ∧ (t.zone.tdiv 60).natAbs / 60 < 24 ∧ text = appendFormatRFC3339 t := by
  unfold appendStrictRFC3339 at written
  split at written
  · cases written
  · split at written
    · cases written
    · exact ⟨by omega, by omega, by omega, (Option.some.inj written).symm⟩

theorem plain_of_digit {byte : UInt8} (digit : isDigit byte = true) : Plain byte := by
  unfold isDigit at digit
  obtain ⟨low, high⟩ := of_decide_eq_true digit
  have most : byte.toNat ≤ 57 := UInt8.le_iff_toNat_le.mp high
  exact plain_of_range (UInt8.le_iff_toNat_le.mp low) (by omega)

/-- No byte of the text needs an escape. -/
theorem appendFormatRFC3339_plain (t : Time) : ∀ byte ∈ appendFormatRFC3339 t, Plain byte := by
  have number {n w : Nat} : ∀ byte ∈ appendInt n w, Plain byte := fun _ member => plain_of_digit (appendInt_digits member)
  have dash : Plain 45 := ⟨by decide, by decide, by decide⟩
  have colon : Plain 58 := ⟨by decide, by decide, by decide⟩
  have nano : ∀ byte ∈ appendNano t.nanos, Plain byte := by
    unfold appendNano
    split
    · nofun
    · rw [List.forall_mem_cons]
      exact ⟨⟨by decide, by decide, by decide⟩, fun byte digit => number byte ((List.rdropWhile_prefix _ _).subset digit)⟩
  have zone : ∀ byte ∈ appendZone t.zone, Plain byte := by
    unfold appendZone
    split
    · rw [List.forall_mem_singleton]
      exact ⟨by decide, by decide, by decide⟩
    · simp only [List.cons_append, List.forall_mem_cons, List.forall_mem_append]
      refine ⟨?_, number, colon, number⟩
      split
      · exact dash
      · exact ⟨by decide, by decide, by decide⟩
  simp only [appendFormatRFC3339, List.cons_append, List.append_assoc, List.forall_mem_cons, List.forall_mem_append]
  exact ⟨number, dash, number, dash, number, ⟨by decide, by decide, by decide⟩, number, colon, number, colon, number,
    nano, zone⟩

theorem parseRFC3339_append {t : Time} {text : Bytes} (written : appendStrictRFC3339 t = some text) :
    parseRFC3339 text = some t.received := by
  obtain ⟨least, most, near, rfl⟩ := appendStrictRFC3339_eq_some written
  have months : 1 ≤ t.date.month ∧ t.date.month ≤ 12 := date_month _
  have days : 1 ≤ t.date.day ∧ t.date.day ≤ daysIn t.date.month t.date.year := date_day _
  have short : daysIn t.date.month t.date.year ≤ 31 := by
    unfold daysIn
    split
    · split <;> omega
    · omega
  obtain ⟨y₁, y₂, y₃, y₄, year⟩ := appendInt_quad (n := t.date.year.toNat) (by omega)
  obtain ⟨o₁, o₂, month⟩ := appendInt_pair (n := t.date.month.toNat) (by omega)
  obtain ⟨d₁, d₂, day⟩ := appendInt_pair (n := t.date.day.toNat) (by omega)
  obtain ⟨h₁, h₂, hour⟩ := appendInt_pair (n := (t.wall % 86400 / 3600).toNat) (by omega)
  obtain ⟨m₁, m₂, minute⟩ := appendInt_pair (n := (t.wall % 3600 / 60).toNat) (by omega)
  obtain ⟨s₁, s₂, second⟩ := appendInt_pair (n := (t.wall % 60).toNat) (by omega)
  have shape : appendFormatRFC3339 t = y₁ :: y₂ :: y₃ :: y₄ :: 45 :: o₁ :: o₂ :: 45 :: d₁ :: d₂ :: 84 :: h₁ :: h₂ ::
      58 :: m₁ :: m₂ :: 58 :: s₁ :: s₂ :: (appendNano t.nanos ++ appendZone t.zone) := by
    unfold appendFormatRFC3339
    rw [year, month, day, hour, minute, second]
    rfl
  have whole : Date.days { year := t.date.year, month := t.date.month, day := t.date.day } = t.wall / 86400 + 719468 :=
    days_date _
  have offset := Int.mul_tdiv_add_tmod t.zone 60
  unfold parseRFC3339
  rw [if_neg (by rw [shape]; simp),
    parseField_toNat (n := t.date.year) (by rw [shape]; exact year.symm) (by decide) least most,
    parseField_toNat (n := t.date.month) (by rw [shape]; exact month.symm) (by decide) months.1 months.2]
  dsimp only [Option.bind_eq_bind, Option.bind_some]
  rw [parseField_toNat (n := t.date.day) (by rw [shape]; exact day.symm) (by decide) days.1 days.2,
    parseField_toNat (n := t.wall % 86400 / 3600) (by rw [shape]; exact hour.symm) (by decide) (by omega) (by omega),
    parseField_toNat (n := t.wall % 3600 / 60) (by rw [shape]; exact minute.symm) (by decide) (by omega) (by omega),
    parseField_toNat (n := t.wall % 60) (by rw [shape]; exact second.symm) (by decide) (by omega) (by omega)]
  dsimp only [Option.bind_some]
  rw [if_pos (by rw [shape]; exact ⟨rfl, rfl, rfl, rfl, rfl⟩),
    show (appendFormatRFC3339 t).drop 19 = appendNano t.nanos ++ appendZone t.zone by rw [shape]; rfl,
    parseFraction_appendNano t.nanos.isLt, parseZone_appendZone near, Option.bind_some, whole]
  have instant : (t.wall / 86400 + 719468 - 719468) * 86400 + t.wall % 86400 / 3600 * 3600 + t.wall % 3600 / 60 * 60 +
      t.wall % 60 - t.zone.tdiv 60 * 60 = t.seconds + t.zone.tmod 60 := by
    unfold Time.wall
    omega
  rw [instant, Fin.ofNat_val_eq_self]
  rfl

end StbEbpf.Agent
