import StbEbpf.Lib.Decimal
import StbEbpf.Lib.JsonString

/-!
JSON texts and the trees they stand for, with the literals of numbers and strings left as they are. The reader takes
what the grammar allows, blanks included; the writer puts no blanks.
-/

namespace StbEbpf.Json
open CText Access

/-- The parts of a number literal. The exponent has its sign. -/
structure Numeral where
  negative : Bool := false
  whole : Bytes
  fraction : Bytes := []
  exponent : Option (Bool × Bytes) := none
  deriving DecidableEq, Repr

inductive Value where
  | null
  | bool (value : Bool)
  | number (numeral : Numeral)
  | string (raw : Bytes)
  | array (items : List Value)
  | object (members : List (Bytes × Value))

/-! ### Writing -/

def fractionText (fraction : Bytes) : Bytes := if fraction = [] then [] else 46 :: fraction

def exponentText : Option (Bool × Bytes) → Bytes
  | none => []
  | some (negative, digits) => 101 :: (if negative then 45 else 43) :: digits

def Numeral.text (n : Numeral) : Bytes :=
  (if n.negative then [45] else []) ++ n.whole ++ fractionText n.fraction ++ exponentText n.exponent

mutual

def Value.text : Value → Bytes
  | .null => [110, 117, 108, 108]
  | .bool true => [116, 114, 117, 101]
  | .bool false => [102, 97, 108, 115, 101]
  | .number numeral => numeral.text
  | .string raw => 34 :: raw ++ [34]
  | .array [] => [91, 93]
  | .array (item :: rest) => 91 :: item.text ++ itemsText rest
  | .object [] => [123, 125]
  | .object ((key, value) :: rest) => 123 :: 34 :: key ++ 34 :: 58 :: value.text ++ membersText rest

/-- What follows an item. -/
def itemsText : List Value → Bytes
  | [] => [93]
  | item :: rest => 44 :: item.text ++ itemsText rest

def membersText : List (Bytes × Value) → Bytes
  | [] => [125]
  | (key, value) :: rest => 44 :: 34 :: key ++ 34 :: 58 :: value.text ++ membersText rest

end

/-! ### Reading -/

def isBlank (byte : UInt8) : Bool := byte = 32 || byte = 9 || byte = 10 || byte = 13

def skip (text : Bytes) : Bytes := text.dropWhile isBlank

/-- At least one digit. -/
def scanDigits (text : Bytes) : Option (Bytes × Bytes) :=
  let digits := text.takeWhile isDigit
  if digits = [] then none else some (digits, text.dropWhile isDigit)

def scanWhole : Bytes → Option (Bytes × Bytes)
  | [] => none
  | byte :: rest => if byte = 48 then some ([48], rest) else scanDigits (byte :: rest)

def scanFraction : Bytes → Option (Bytes × Bytes)
  | [] => some ([], [])
  | byte :: rest => if byte = 46 then scanDigits rest else some ([], byte :: rest)

def scanExponent : Bytes → Option (Option (Bool × Bytes) × Bytes)
  | [] => some (none, [])
  | byte :: rest =>
    if byte = 101 ∨ byte = 69 then
      match rest with
      | [] => none
      | sign :: digits =>
        let signed := sign = 43 ∨ sign = 45
        (scanDigits (if signed then digits else sign :: digits)).map fun found =>
          (some (decide (sign = 45), found.1), found.2)
    else some (none, byte :: rest)

def scanNumeral (text : Bytes) : Option (Numeral × Bytes) := do
  let negative := text.head? = some 45
  let (whole, text) ← scanWhole (if negative then text.drop 1 else text)
  let (fraction, text) ← scanFraction text
  let (exponent, text) ← scanExponent text
  pure ({ negative := decide negative, whole, fraction, exponent }, text)

def scanLiteral (literal : Bytes) (value : Value) (text : Bytes) : Option (Value × Bytes) :=
  if text.take literal.length = literal then some (value, text.drop literal.length) else none

/-- A string in its quotes. -/
def scanQuoted (text : Bytes) : Option (Bytes × Bytes) :=
  match skip text with
  | [] => none
  | byte :: rest => if byte = 34 then scanString rest else none

/-- One byte after blanks. -/
def expect (byte : UInt8) (text : Bytes) : Option Bytes :=
  match skip text with
  | [] => none
  | found :: rest => if found = byte then some rest else none

mutual

/-- A value at the start of the text. A step of `fuel` goes with each byte at least; `depth` is how deep arrays and
objects may still be nested. -/
def readValue : (fuel depth : Nat) → Bytes → Option (Value × Bytes)
  | 0, _, _ => none
  | fuel + 1, depth, text =>
    match skip text with
    | [] => none
    | byte :: rest =>
      if byte = 91 then
        if depth = 0 then none
        else
          match expect 93 rest with
          | some rest => some (.array [], rest)
          | none => do
            let (item, rest) ← readValue fuel (depth - 1) rest
            let (items, rest) ← readItems fuel (depth - 1) rest
            pure (.array (item :: items), rest)
      else if byte = 123 then
        if depth = 0 then none
        else
          match expect 125 rest with
          | some rest => some (.object [], rest)
          | none => do
            let (key, rest) ← scanQuoted rest
            let rest ← expect 58 rest
            let (value, rest) ← readValue fuel (depth - 1) rest
            let (members, rest) ← readMembers fuel (depth - 1) rest
            pure (.object ((key, value) :: members), rest)
      else if byte = 34 then (scanString rest).map fun (raw, rest) => (.string raw, rest)
      else if byte = 110 then scanLiteral [110, 117, 108, 108] .null (byte :: rest)
      else if byte = 116 then scanLiteral [116, 114, 117, 101] (.bool true) (byte :: rest)
      else if byte = 102 then scanLiteral [102, 97, 108, 115, 101] (.bool false) (byte :: rest)
      else (scanNumeral (byte :: rest)).map fun (numeral, rest) => (.number numeral, rest)

def readItems : (fuel depth : Nat) → Bytes → Option (List Value × Bytes)
  | 0, _, _ => none
  | fuel + 1, depth, text =>
    match expect 93 text with
    | some rest => some ([], rest)
    | none => do
      let rest ← expect 44 text
      let (item, rest) ← readValue fuel depth rest
      let (items, rest) ← readItems fuel depth rest
      pure (item :: items, rest)

def readMembers : (fuel depth : Nat) → Bytes → Option (List (Bytes × Value) × Bytes)
  | 0, _, _ => none
  | fuel + 1, depth, text =>
    match expect 125 text with
    | some rest => some ([], rest)
    | none => do
      let rest ← expect 44 text
      let (key, rest) ← scanQuoted rest
      let rest ← expect 58 rest
      let (value, rest) ← readValue fuel depth rest
      let (members, rest) ← readMembers fuel depth rest
      pure ((key, value) :: members, rest)

end

def maxNestingDepth : Nat := 10000

/-- The first value of a stream. Only an array or an object shows by itself where it ends. -/
def readFirst (text : Bytes) : Option Value :=
  match readValue text.length maxNestingDepth text with
  | none => none
  | some (.array items, _) => some (.array items)
  | some (.object members, _) => some (.object members)
  | some (value, rest) => if rest.head?.all isBlank then some value else none

/-- A text that is one value. -/
def readWhole (text : Bytes) : Option Value :=
  match readValue text.length maxNestingDepth text with
  | some (value, rest) => if skip rest = [] then some value else none
  | none => none

/-! ### What is read of what was written -/

/-- No byte that the predicate would take comes next. -/
def Breaks (takes : UInt8 → Bool) (text : Bytes) : Prop := ∀ byte, text.head? = some byte → takes byte = false

theorem breaks_cons {takes : UInt8 → Bool} {byte : UInt8} (other : takes byte = false) (rest : Bytes) :
    Breaks takes (byte :: rest) := by
  intro found same
  obtain rfl := Option.some.inj same
  exact other

/-- Bytes that go on a number literal. -/
def isNumeral (byte : UInt8) : Bool := isDigit byte || byte = 46 || byte = 101 || byte = 69

theorem takeWhile_run {takes : UInt8 → Bool} {run rest : Bytes} (all : ∀ byte ∈ run, takes byte = true)
    (stops : Breaks takes rest) : (run ++ rest).takeWhile takes = run ∧ (run ++ rest).dropWhile takes = rest := by
  rw [List.takeWhile_append_of_pos all, List.dropWhile_append_of_pos all]
  cases rest with
  | nil => simp
  | cons byte rest =>
    have stop := stops byte rfl
    simp [stop]

theorem scanDigits_run {digits rest : Bytes} (some_ : digits ≠ []) (all : ∀ byte ∈ digits, isDigit byte = true)
    (stops : Breaks isDigit rest) : scanDigits (digits ++ rest) = some (digits, rest) := by
  obtain ⟨taken, left⟩ := takeWhile_run all stops
  unfold scanDigits
  rw [taken, left]
  exact if_neg some_

structure Numeral.Ok (n : Numeral) : Prop where
  whole : n.whole = [48] ∨ n.whole.head? ≠ some 48 ∧ n.whole ≠ [] ∧ ∀ byte ∈ n.whole, isDigit byte = true
  fraction : ∀ byte ∈ n.fraction, isDigit byte = true
  exponent : ∀ negative digits, n.exponent = some (negative, digits) →
    digits ≠ [] ∧ ∀ byte ∈ digits, isDigit byte = true

theorem Numeral.Ok.starts {n : Numeral} (ok : n.Ok) : n.whole ≠ [] ∧ n.whole.head? ≠ some 45 := by
  rcases ok.whole with zero | ⟨-, some_, all⟩
  · rw [zero]
    decide
  · exact ⟨some_, fun minus => absurd (all 45 (List.mem_of_mem_head? minus)) (by decide)⟩

theorem scanWhole_run {whole rest : Bytes}
    (ok : whole = [48] ∨ whole.head? ≠ some 48 ∧ whole ≠ [] ∧ ∀ byte ∈ whole, isDigit byte = true)
    (stops : Breaks isDigit rest) : scanWhole (whole ++ rest) = some (whole, rest) := by
  rcases ok with rfl | ⟨nonzero, some_, all⟩
  · rfl
  · cases whole with
    | nil => exact absurd rfl some_
    | cons byte whole =>
      have head : byte ≠ 48 := fun zero => nonzero (by rw [zero]; rfl)
      rw [List.cons_append, scanWhole, if_neg head, ← List.cons_append]
      exact scanDigits_run some_ all stops

theorem scanFraction_run {fraction rest : Bytes} (all : ∀ byte ∈ fraction, isDigit byte = true)
    (stops : Breaks (fun byte => isDigit byte || byte = 46) rest) :
    scanFraction (fractionText fraction ++ rest) = some (fraction, rest) := by
  unfold fractionText
  split
  · rename_i empty
    rw [empty, List.nil_append]
    cases rest with
    | nil => rfl
    | cons byte rest =>
      have stop := stops byte rfl
      have point : byte ≠ 46 := by rintro rfl; simp at stop
      rw [scanFraction, if_neg point]
  · rename_i some_
    rw [List.cons_append, scanFraction, if_pos rfl]
    refine scanDigits_run some_ all fun byte next => ?_
    have stop := stops byte next
    simp only [Bool.or_eq_false_iff] at stop
    exact stop.1

theorem scanExponent_run {exponent : Option (Bool × Bytes)} {rest : Bytes}
    (ok : ∀ negative digits, exponent = some (negative, digits) → digits ≠ [] ∧ ∀ byte ∈ digits, isDigit byte = true)
    (stops : Breaks isNumeral rest) : scanExponent (exponentText exponent ++ rest) = some (exponent, rest) := by
  cases exponent with
  | none =>
    rw [exponentText, List.nil_append]
    cases rest with
    | nil => rfl
    | cons byte rest =>
      have stop := stops byte rfl
      simp only [isNumeral, Bool.or_eq_false_iff, decide_eq_false_iff_not] at stop
      rw [scanExponent.eq_def]
      exact if_neg (by simp [stop])
  | some parts =>
    obtain ⟨negative, digits⟩ := parts
    obtain ⟨some_, all⟩ := ok negative digits rfl
    have read : scanDigits (digits ++ rest) = some (digits, rest) := by
      refine scanDigits_run some_ all fun byte next => ?_
      have stop := stops byte next
      simp only [isNumeral, Bool.or_eq_false_iff] at stop
      exact stop.1.1.1
    rw [exponentText, List.cons_append, List.cons_append, scanExponent, if_pos (.inl rfl)]
    cases negative <;> simp [read]

/-- What follows the digits before the point. -/
theorem breaks_tail {n : Numeral} {rest : Bytes} (stops : Breaks isNumeral rest) :
    Breaks isDigit (fractionText n.fraction ++ (exponentText n.exponent ++ rest)) ∧
      Breaks (fun byte => isDigit byte || byte = 46) (exponentText n.exponent ++ rest) := by
  have second : Breaks (fun byte => isDigit byte || byte = 46) (exponentText n.exponent ++ rest) := by
    rcases n.exponent with _ | ⟨negative, digits⟩
    · intro byte next
      have stop := stops byte next
      simp only [isNumeral, Bool.or_eq_false_iff] at stop ⊢
      exact stop.1.1
    · exact breaks_cons (by decide) _
  refine ⟨?_, second⟩
  unfold fractionText
  split
  · intro byte next
    have stop := second byte next
    simp only [Bool.or_eq_false_iff] at stop
    exact stop.1
  · exact breaks_cons (by decide) _

theorem scanNumeral_text {n : Numeral} (ok : n.Ok) {rest : Bytes} (stops : Breaks isNumeral rest) :
    scanNumeral (n.text ++ rest) = some (n, rest) := by
  obtain ⟨afterWhole, afterFraction⟩ := breaks_tail (n := n) stops
  have whole := scanWhole_run ok.whole afterWhole
  have fraction := scanFraction_run ok.fraction afterFraction
  have exponent := scanExponent_run ok.exponent stops
  obtain ⟨some_, digit⟩ := ok.starts
  obtain ⟨negative, wholeDigits, fractionDigits, exponentPart⟩ := n
  dsimp only at whole fraction exponent some_ digit
  unfold scanNumeral Numeral.text
  dsimp only
  cases negative with
  | true => simp [whole, fraction, exponent]
  | false => simp [whole, fraction, exponent, some_, digit]

/-- The trees that can be written, nested no deeper than the given depth. -/
inductive Printable : Nat → Value → Prop where
  | null (depth : Nat) : Printable depth .null
  | bool (depth : Nat) (value : Bool) : Printable depth (.bool value)
  | number (depth : Nat) {numeral : Numeral} (ok : numeral.Ok) : Printable depth (.number numeral)
  | string (depth : Nat) {raw : Bytes} (ok : Enclosed raw) : Printable depth (.string raw)
  | array {depth : Nat} {items : List Value} (all : ∀ item ∈ items, Printable depth item) :
      Printable (depth + 1) (.array items)
  | object {depth : Nat} {members : List (Bytes × Value)} (keys : ∀ pair ∈ members, Enclosed pair.1)
      (all : ∀ pair ∈ members, Printable depth pair.2) : Printable (depth + 1) (.object members)

/-- How a value may start: with no blank and with none of the bytes that end a list. -/
def Opens (byte : UInt8) : Prop := isBlank byte = false ∧ byte ≠ 93 ∧ byte ≠ 125

theorem opens_numeral {byte : UInt8} (numeral : byte = 45 ∨ isDigit byte = true) :
    Opens byte ∧ byte ≠ 91 ∧ byte ≠ 123 ∧ byte ≠ 34 ∧ byte ≠ 110 ∧ byte ≠ 116 ∧ byte ≠ 102 := by
  have other (c : UInt8) (minus : c ≠ 45) (letter : isDigit c = false) : byte ≠ c := by
    rintro rfl
    rcases numeral with same | digit
    · exact minus same
    · rw [letter] at digit
      cases digit
  have blank : isBlank byte = false := by
    simp [isBlank, other 32 (by decide) (by decide), other 9 (by decide) (by decide), other 10 (by decide) (by decide),
      other 13 (by decide) (by decide)]
  exact ⟨⟨blank, other 93 (by decide) (by decide), other 125 (by decide) (by decide)⟩, other 91 (by decide) (by decide),
    other 123 (by decide) (by decide), other 34 (by decide) (by decide), other 110 (by decide) (by decide),
    other 116 (by decide) (by decide), other 102 (by decide) (by decide)⟩

theorem Numeral.Ok.text_starts {n : Numeral} (ok : n.Ok) :
    ∃ byte rest, n.text = byte :: rest ∧ (byte = 45 ∨ isDigit byte = true) := by
  unfold text
  cases n.negative with
  | true => exact ⟨_, _, rfl, .inl rfl⟩
  | false =>
    obtain ⟨some_, -⟩ := ok.starts
    obtain ⟨byte, rest, whole⟩ := List.exists_cons_of_ne_nil some_
    have digit : isDigit byte = true := by
      rcases ok.whole with zero | ⟨-, -, all⟩
      · rw [zero] at whole
        rw [← (List.cons.inj whole).1]
        decide
      · exact all byte (whole ▸ List.mem_cons_self)
    rw [whole]
    exact ⟨_, _, rfl, .inr digit⟩

theorem Printable.text_starts {depth : Nat} {value : Value} (printable : Printable depth value) :
    ∃ byte rest, value.text = byte :: rest ∧ Opens byte := by
  cases printable with
  | null => exact ⟨_, _, rfl, by decide, by decide, by decide⟩
  | bool _ value => cases value <;> exact ⟨_, _, rfl, by decide, by decide, by decide⟩
  | number _ ok =>
    obtain ⟨byte, rest, starts, numeral⟩ := ok.text_starts
    exact ⟨byte, rest, starts, (opens_numeral numeral).1⟩
  | string => exact ⟨_, _, rfl, by decide, by decide, by decide⟩
  | @array _ items => cases items <;> exact ⟨_, _, rfl, by decide, by decide, by decide⟩
  | @object _ members => rcases members with _ | ⟨⟨key, value⟩, rest⟩ <;> exact ⟨_, _, rfl, by decide, by decide, by decide⟩

theorem skip_opens {byte : UInt8} (opens : isBlank byte = false) (rest : Bytes) : skip (byte :: rest) = byte :: rest := by
  simp [skip, opens]

theorem expect_here {byte : UInt8} (opens : isBlank byte = false) (rest : Bytes) :
    expect byte (byte :: rest) = some rest := by
  simp [expect, skip_opens opens]

theorem expect_other {byte found : UInt8} (opens : isBlank found = false) (apart : found ≠ byte) (rest : Bytes) :
    expect byte (found :: rest) = none := by
  simp [expect, skip_opens opens, apart]

theorem scanQuoted_text {raw : Bytes} (ok : Enclosed raw) (rest : Bytes) :
    scanQuoted (34 :: (raw ++ 34 :: rest)) = some (raw, rest) := by
  simp [scanQuoted, skip_opens (show isBlank 34 = false by decide), ok rest]

/-- What comes after an item or a member cannot go on a number. -/
theorem itemsText_breaks (items : List Value) (rest : Bytes) : Breaks isNumeral (itemsText items ++ rest) := by
  cases items <;> exact breaks_cons (by decide) _

theorem membersText_breaks (members : List (Bytes × Value)) (rest : Bytes) :
    Breaks isNumeral (membersText members ++ rest) := by
  rcases members with _ | ⟨⟨key, value⟩, more⟩ <;> exact breaks_cons (by decide) _

theorem readValue_string (fuel depth : Nat) (text : Bytes) :
    readValue (fuel + 1) depth (34 :: text) = (scanString text).map fun found => (.string found.1, found.2) := by
  rw [readValue, skip_opens (by decide)]
  rfl

theorem readValue_number (fuel depth : Nat) {n : Numeral} (ok : n.Ok) {rest : Bytes} (stops : Breaks isNumeral rest) :
    readValue (fuel + 1) depth (n.text ++ rest) = some (.number n, rest) := by
  obtain ⟨byte, more, starts, kind⟩ := ok.text_starts
  obtain ⟨opens, array, object, quote, null, true_, false_⟩ := opens_numeral kind
  have read := scanNumeral_text ok stops
  rw [starts, List.cons_append] at read
  rw [starts, List.cons_append, readValue, skip_opens opens.1]
  simp [array, object, quote, null, true_, false_, read]

/-! One step of a list: what is read of its first element, and the rest from there. -/

theorem readItems_item (fuel depth : Nat) (text : Bytes) :
    readItems (fuel + 1) depth (44 :: text) =
      (readValue fuel depth text).bind fun item =>
        (readItems fuel depth item.2).map fun found => (item.1 :: found.1, found.2) := by
  rw [readItems, expect_other (by decide) (by decide)]
  cases item : readValue fuel depth text with
  | none => simp [expect_here (show isBlank 44 = false by decide), item]
  | some found =>
    cases items : readItems fuel depth found.2 <;>
      simp [expect_here (show isBlank 44 = false by decide), item, items]

theorem readValue_array (fuel depth : Nat) {byte : UInt8} (opens : Opens byte) (rest : Bytes) :
    readValue (fuel + 1) (depth + 1) (91 :: byte :: rest) =
      (readValue fuel depth (byte :: rest)).bind fun item =>
        (readItems fuel depth item.2).map fun found => (.array (item.1 :: found.1), found.2) := by
  have open_ := expect_other opens.1 opens.2.1 rest
  rw [readValue, skip_opens (by decide)]
  cases item : readValue fuel depth (byte :: rest) with
  | none => simp [open_, item]
  | some found => cases items : readItems fuel depth found.2 <;> simp [open_, item, items]

theorem readMembers_member (fuel depth : Nat) {key : Bytes} (enclosed : Enclosed key) (text : Bytes) :
    readMembers (fuel + 1) depth (44 :: 34 :: (key ++ 34 :: 58 :: text)) =
      (readValue fuel depth text).bind fun value =>
        (readMembers fuel depth value.2).map fun found => ((key, value.1) :: found.1, found.2) := by
  have name := scanQuoted_text enclosed (58 :: text)
  rw [readMembers, expect_other (by decide) (by decide)]
  cases value : readValue fuel depth text with
  | none => simp [expect_here (show isBlank 44 = false by decide), expect_here (show isBlank 58 = false by decide), name, value]
  | some found =>
    cases members : readMembers fuel depth found.2 <;>
      simp [expect_here (show isBlank 44 = false by decide), expect_here (show isBlank 58 = false by decide), name, value,
        members]

theorem readValue_object (fuel depth : Nat) {key : Bytes} (enclosed : Enclosed key) (text : Bytes) :
    readValue (fuel + 1) (depth + 1) (123 :: 34 :: (key ++ 34 :: 58 :: text)) =
      (readValue fuel depth text).bind fun value =>
        (readMembers fuel depth value.2).map fun found => (.object ((key, value.1) :: found.1), found.2) := by
  have name := scanQuoted_text enclosed (58 :: text)
  have open_ := expect_other (show isBlank 34 = false by decide) (show (34 : UInt8) ≠ 125 by decide)
    (key ++ 34 :: 58 :: text)
  rw [readValue, skip_opens (by decide)]
  cases value : readValue fuel depth text with
  | none => simp [open_, expect_here (show isBlank 58 = false by decide), name, value]
  | some found =>
    cases members : readMembers fuel depth found.2 <;>
      simp [open_, expect_here (show isBlank 58 = false by decide), name, value, members]

/-- What is written is read back, with fuel for each byte. -/
structure Reads (fuel : Nat) : Prop where
  value {depth : Nat} {value : Value} {rest : Bytes} : Printable depth value → value.text.length ≤ fuel →
    Breaks isNumeral rest → readValue fuel depth (value.text ++ rest) = some (value, rest)
  items {depth : Nat} {items : List Value} (rest : Bytes) : (∀ item ∈ items, Printable depth item) →
    (itemsText items).length ≤ fuel → readItems fuel depth (itemsText items ++ rest) = some (items, rest)
  members {depth : Nat} {members : List (Bytes × Value)} (rest : Bytes) : (∀ pair ∈ members, Enclosed pair.1) →
    (∀ pair ∈ members, Printable depth pair.2) → (membersText members).length ≤ fuel →
    readMembers fuel depth (membersText members ++ rest) = some (members, rest)

theorem reads_zero : Reads 0 where
  value {depth value rest} printable short := by
    obtain ⟨byte, more, starts, -⟩ := printable.text_starts
    rw [starts] at short
    cases short
  items {depth items} rest all short := by cases items <;> cases short
  members {depth members} rest keys all short := by rcases members with _ | ⟨⟨key, value⟩, more⟩ <;> cases short

section
variable {fuel depth : Nat} (reads : Reads fuel)
include reads

theorem readItems_step {items : List Value} (rest : Bytes) (all : ∀ item ∈ items, Printable depth item)
    (short : (itemsText items).length ≤ fuel + 1) :
    readItems (fuel + 1) depth (itemsText items ++ rest) = some (items, rest) := by
  cases items with
  | nil => rw [itemsText, List.singleton_append, readItems, expect_here (by decide)]
  | cons item items =>
    rw [itemsText, List.length_append, List.length_cons] at short
    have first := reads.value (all item List.mem_cons_self) (by omega) (itemsText_breaks items rest)
    have others := reads.items rest (fun other member => all other (List.mem_cons_of_mem _ member)) (by omega)
    rw [itemsText, List.append_assoc, List.cons_append, readItems_item, first, Option.bind_some, others]
    rfl

/-- The first value is read up to the members after it, and so are they. -/
theorem reads_member {key : Bytes} {value : Value} {members : List (Bytes × Value)} (rest : Bytes)
    (keys : ∀ pair ∈ (key, value) :: members, Enclosed pair.1)
    (all : ∀ pair ∈ (key, value) :: members, Printable depth pair.2)
    (length : value.text.length ≤ fuel ∧ (membersText members).length ≤ fuel) :
    readValue fuel depth (value.text ++ (membersText members ++ rest)) = some (value, membersText members ++ rest) ∧
      readMembers fuel depth (membersText members ++ rest) = some (members, rest) := by
  refine ⟨?_, ?_⟩
  · exact reads.value (all _ List.mem_cons_self) length.1 (membersText_breaks members rest)
  · exact reads.members rest (fun pair member => keys pair (List.mem_cons_of_mem _ member))
      (fun pair member => all pair (List.mem_cons_of_mem _ member)) length.2

theorem readMembers_step {members : List (Bytes × Value)} (rest : Bytes) (keys : ∀ pair ∈ members, Enclosed pair.1)
    (all : ∀ pair ∈ members, Printable depth pair.2) (short : (membersText members).length ≤ fuel + 1) :
    readMembers (fuel + 1) depth (membersText members ++ rest) = some (members, rest) := by
  rcases members with _ | ⟨⟨key, value⟩, members⟩
  · rw [membersText, List.singleton_append, readMembers, expect_here (by decide)]
  · have text : membersText ((key, value) :: members) ++ rest =
        44 :: 34 :: (key ++ 34 :: 58 :: (value.text ++ (membersText members ++ rest))) := by
      simp [membersText]
    have length : value.text.length ≤ fuel ∧ (membersText members).length ≤ fuel := by
      simp only [membersText, List.length_append, List.length_cons] at short
      omega
    obtain ⟨first, others⟩ := reads_member reads rest keys all length
    rw [text, readMembers_member fuel depth (keys _ List.mem_cons_self), first, Option.bind_some, others]
    rfl

theorem readValue_step {value : Value} {rest : Bytes} (printable : Printable depth value)
    (short : value.text.length ≤ fuel + 1) (stops : Breaks isNumeral rest) :
    readValue (fuel + 1) depth (value.text ++ rest) = some (value, rest) := by
  cases printable with
  | null => simp [Value.text, readValue, skip, isBlank, scanLiteral]
  | bool _ value => cases value <;> simp [Value.text, readValue, skip, isBlank, scanLiteral]
  | @number _ numeral ok => exact readValue_number fuel depth ok stops
  | @string _ raw ok =>
    have text : (Value.string raw).text ++ rest = 34 :: (raw ++ 34 :: rest) := by simp [Value.text]
    rw [text, readValue_string, ok rest]
    rfl
  | @array depth items all =>
    cases items with
    | nil =>
      rw [Value.text, List.cons_append, readValue, skip_opens (by decide)]
      simp [expect_here (show isBlank 93 = false by decide)]
    | cons item items =>
      rw [Value.text, List.length_append, List.length_cons] at short
      have first := reads.value (all item List.mem_cons_self) (by omega) (itemsText_breaks items rest)
      have others := reads.items rest (fun other member => all other (List.mem_cons_of_mem _ member)) (by omega)
      obtain ⟨byte, more, starts, opens⟩ := (all item List.mem_cons_self).text_starts
      rw [starts, List.cons_append] at first
      rw [Value.text, List.append_assoc, List.cons_append, starts, List.cons_append, readValue_array fuel depth opens,
        first, Option.bind_some, others]
      rfl
  | @object depth members keys all =>
    rcases members with _ | ⟨⟨key, value⟩, members⟩
    · rw [Value.text, List.cons_append, readValue, skip_opens (by decide)]
      simp [expect_here (show isBlank 125 = false by decide)]
    · have text : (Value.object ((key, value) :: members)).text ++ rest =
          123 :: 34 :: (key ++ 34 :: 58 :: (value.text ++ (membersText members ++ rest))) := by
        simp [Value.text]
      have length : value.text.length ≤ fuel ∧ (membersText members).length ≤ fuel := by
        simp only [Value.text, List.length_append, List.length_cons] at short
        omega
      obtain ⟨first, others⟩ := reads_member reads rest keys all length
      rw [text, readValue_object fuel depth (keys _ List.mem_cons_self), first, Option.bind_some, others]
      rfl

end

theorem reads_text (fuel : Nat) : Reads fuel := by
  induction fuel with
  | zero => exact reads_zero
  | succ fuel ih => exact ⟨readValue_step ih, readItems_step ih, readMembers_step ih⟩

theorem readValue_text {value : Value} (printable : Printable maxNestingDepth value) :
    readValue value.text.length maxNestingDepth value.text = some (value, []) := by
  have read := @Reads.value _ (reads_text value.text.length) _ _ [] printable (Nat.le_refl _) nofun
  rwa [List.append_nil] at read

theorem readFirst_text {items : List Value} (printable : Printable maxNestingDepth (.array items)) :
    readFirst (Value.array items).text = some (.array items) := by
  unfold readFirst
  rw [readValue_text printable]

theorem readWhole_text {value : Value} (printable : Printable maxNestingDepth value) :
    readWhole value.text = some value := by
  unfold readWhole
  rw [readValue_text printable]
  rfl

/-! ### Texts that are known at the start only -/

theorem readValue_object_starts {fuel depth : Nat} {key : Bytes} {value : Value} (enclosed : Enclosed key)
    (printable : Printable depth value) (enough : value.text.length ≤ fuel) (more : Bytes) :
    readValue (fuel + 1) (depth + 1) (123 :: 34 :: (key ++ 34 :: 58 :: (value.text ++ 44 :: more))) =
      (readMembers fuel depth (44 :: more)).map fun found => (.object ((key, value) :: found.1), found.2) := by
  have first := (reads_text fuel).value printable enough (breaks_cons (show isNumeral 44 = false by decide) more)
  rw [readValue_object fuel depth enclosed, first]
  rfl

/-- Whatever follows the first member of the first object: if the text is read at all, that member is there. -/
theorem readFirst_starts {key : Bytes} {value : Value} (enclosed : Enclosed key)
    (printable : ∀ depth, Printable depth value) (more : Bytes) :
    let text := 91 :: 123 :: 34 :: (key ++ 34 :: 58 :: (value.text ++ 44 :: more))
    readFirst text = none ∨
      ∃ members items, readFirst text = some (.array (.object ((key, value) :: members) :: items)) := by
  intro text
  obtain ⟨fuel, length, enough⟩ : ∃ fuel, text.length = fuel + 1 + 1 ∧ value.text.length ≤ fuel := by
    refine ⟨text.length - 2, by simp [text], ?_⟩
    simp only [text, List.length_cons, List.length_append]
    omega
  have object := readValue_object_starts enclosed (printable 9998) enough more
  unfold readFirst
  rw [length, show maxNestingDepth = 9998 + 1 + 1 from rfl,
    readValue_array (fuel + 1) (9998 + 1) ⟨by decide, by decide, by decide⟩, object]
  cases readMembers fuel 9998 (44 :: more) with
  | none => exact .inl rfl
  | some members =>
    cases items : readItems (fuel + 1) (9998 + 1) members.2 with
    | none => simp [items]
    | some items' => simp [items]

end StbEbpf.Json
