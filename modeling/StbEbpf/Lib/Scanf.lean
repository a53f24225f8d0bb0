import StbEbpf.Lib.Access

/-!
Formatted input of the C library: the lines that `fgets` returns and the integer conversions of `sscanf`, as in the
C standard. A value too large for its object, which the standard leaves undefined, is taken modulo its size.
-/

namespace StbEbpf.Scanf
open CText Access

/-- What successive calls of `fgets` with a buffer of `room + 1` bytes return; `line` is what the current call has read. -/
def readLines (room : Nat) (line : Bytes) : Bytes → List Bytes
  | [] => if line = [] then [] else [line]
  | byte :: rest =>
    let line := line ++ [byte]
    if byte = 10 ∨ line.length = room then line :: readLines room [] rest else readLines room line rest

/-- The strings read from a stream with a buffer of `size` bytes: a line ends where the first NUL byte is. -/
def fgetsLines (size : Nat) (stream : Bytes) : List Bytes := (readLines (size - 1) [] stream).map cut

inductive Base where
  | decimal
  | hexadecimal
  deriving DecidableEq, Repr

def Base.value : Base → Nat
  | decimal => 10
  | hexadecimal => 16

def Base.digit (base : Base) (byte : UInt8) : Option Nat :=
  if isDigit byte then some (byte.toNat - 48)
  else if base = .hexadecimal ∧ 97 ≤ toLower byte ∧ toLower byte ≤ 102 then some ((toLower byte).toNat - 87)
  else none

def Base.digits (base : Base) (value : Nat) : Bytes → Nat × Bytes
  | [] => (value, [])
  | byte :: rest =>
    match base.digit byte with
    | some d => base.digits (value * base.value + d) rest
    | none => (value, byte :: rest)

def signed : Bytes → Bool × Bytes
  | 43 :: rest => (false, rest)
  | 45 :: rest => (true, rest)
  | text => (false, text)

/-- The prefix `0x` of a hexadecimal number is part of the input item even if no digit follows. -/
def Base.unprefixed : Base → Bytes → Bytes
  | .hexadecimal, 48 :: 120 :: rest => rest
  | .hexadecimal, 48 :: 88 :: rest => rest
  | _, text => text

/-- The number at the start of the text, and the text behind it. -/
def Base.number (base : Base) (text : Bytes) : Option (Int × Bytes) :=
  let (negative, text) := signed text
  let text := base.unprefixed text
  match text with
  | [] => none
  | first :: _ =>
    if (base.digit first).isSome then
      let (value, rest) := base.digits 0 text
      some (if negative then -(value : Int) else value, rest)
    else none

inductive Directive where
  | space
  | literal (byte : UInt8)
  | integer (base : Base) (stored : Bool)
  deriving DecidableEq, Repr

/-- The values stored, and whether the input ended before any conversion was completed. -/
structure Scan where
  values : List Int := []
  ended : Bool := false
  deriving DecidableEq, Repr

def scan : List Directive → Bytes → Bool → Scan
  | [], _, _ => {}
  | .space :: format, text, converted => scan format (text.dropWhile isSpace) converted
  | .literal byte :: format, text, converted =>
    match text with
    | [] => { ended := !converted }
    | first :: rest => if first = byte then scan format rest converted else {}
  | .integer base stored :: format, text, converted =>
    match text.dropWhile isSpace with
    | [] => { ended := !converted }
    | first :: rest =>
      match base.number (first :: rest) with
      | none => {}
      | some (value, rest) =>
        let later := scan format rest true
        if stored then { later with values := value :: later.values } else later

def sscanf (text : Bytes) (format : List Directive) : Scan := scan format text false

/-- The value that the call returns. -/
def Scan.ret (s : Scan) : Int := if s.ended then -1 else s.values.length

def Scan.stored (s : Scan) (i : Nat) (before : UInt32) : UInt32 := (s.values[i]?.map UInt32.ofInt).getD before

/-! ### Lines -/

/-- A line that fits the buffer is read by one call. -/
theorem readLines_line {room : Nat} {line text : Bytes} (rest : Bytes) (single : 10 ∉ text)
    (fits : line.length + text.length < room) :
    readLines room line (text ++ 10 :: rest) = (line ++ text ++ [10]) :: readLines room [] rest := by
  induction text generalizing line with
  | nil => simp [readLines]
  | cons byte text ih =>
    have other : byte ≠ 10 := by
      rintro rfl
      exact single List.mem_cons_self
    simp only [List.length_cons] at fits
    have more : ¬ (byte = 10 ∨ (line ++ [byte]).length = room) := by
      rintro (newline | full)
      · exact other newline
      · simp only [List.length_append, List.length_singleton] at full
        omega
    rw [List.cons_append, readLines, if_neg more, ih (fun member => single (List.mem_cons_of_mem _ member)) (by simp; omega)]
    simp

/-! ### Items -/

section
variable {base : Base} {item rest : Bytes} {stop : UInt8}

theorem digits_append (rest : Bytes) (digits : ∀ byte ∈ item, (base.digit byte).isSome)
    (ends : base.digit stop = none) (value : Nat) : (base.digits value (item ++ stop :: rest)).2 = stop :: rest := by
  induction item generalizing value with
  | nil =>
    unfold Base.digits
    rw [List.nil_append]
    dsimp only
    rw [ends]
  | cons byte item ih =>
    obtain ⟨d, digit⟩ := Option.isSome_iff_exists.mp (digits byte List.mem_cons_self)
    rw [List.cons_append, Base.digits, digit]
    exact ih (fun other member => digits other (List.mem_cons_of_mem _ member)) _

theorem signed_none {first : UInt8} (plus : first ≠ 43) (minus : first ≠ 45) :
    signed (first :: rest) = (false, first :: rest) := by
  unfold signed
  split
  · rename_i same
    exact absurd (List.cons.inj same).1 plus
  · rename_i same
    exact absurd (List.cons.inj same).1 minus
  · rfl

theorem unprefixed_none {first : UInt8} (zero : first ≠ 48) : base.unprefixed (first :: rest) = first :: rest := by
  unfold Base.unprefixed
  split
  · rename_i same
    exact absurd (List.cons.inj same).1 zero
  · rename_i same
    exact absurd (List.cons.inj same).1 zero
  · rfl

theorem isSpace_digit {byte : UInt8} (digit : isDigit byte = true) : isSpace byte = false := by
  unfold isDigit at digit
  unfold isSpace
  simp only [decide_eq_true_eq, decide_eq_false_iff_not, UInt8.le_iff_toNat_le, ← UInt8.toNat_inj] at digit ⊢
  simp at digit ⊢
  omega

theorem decimal_digit {byte : UInt8} (digit : isDigit byte = true) : (Base.decimal.digit byte).isSome = true := by
  unfold Base.digit
  rw [if_pos digit]
  rfl

/-- A run of digits is read whole. -/
theorem number_digits (rest : Bytes) (some_ : item ≠ []) (digits : ∀ byte ∈ item, isDigit byte = true)
    (ends : Base.decimal.digit stop = none) :
    ∃ value, Base.decimal.number (item ++ stop :: rest) = some (value, stop :: rest) := by
  obtain ⟨first, item, rfl⟩ := List.exists_cons_of_ne_nil some_
  have digit := digits first List.mem_cons_self
  have read := digits_append rest (fun byte member => decimal_digit (digits byte member)) ends 0
  rw [List.cons_append] at read ⊢
  unfold Base.number
  rw [signed_none (by rintro rfl; cases digit) (by rintro rfl; cases digit)]
  dsimp only [Base.unprefixed]
  rw [if_pos (decimal_digit digit), read]
  exact ⟨_, rfl⟩

theorem number_none {first : UInt8} (plus : first ≠ 43) (minus : first ≠ 45) (zero : first ≠ 48)
    (ends : base.digit first = none) : base.number (first :: rest) = none := by
  unfold Base.number
  rw [signed_none plus minus]
  dsimp only
  rw [unprefixed_none zero]
  dsimp only
  rw [ends]
  exact if_neg Bool.false_ne_true

end

end StbEbpf.Scanf
