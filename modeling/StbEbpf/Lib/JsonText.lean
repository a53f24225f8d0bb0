import StbEbpf.Lib.Json
import StbEbpf.Lib.JsonQuotes

/-!
What a read says about the text: a value that was written without blanks and is found again has been read up to its end,
no text is shorter than what is read of it, and an array that was cut off was cut between its items if it can be read.
-/

namespace StbEbpf.Json
open CText

theorem readWhole_value {text : Bytes} {value : Value} (read : readWhole text = some value) :
    ∃ rest, readValue text.length maxNestingDepth text = some (value, rest) ∧ skip rest = [] := by
  unfold readWhole at read
  split at read
  · rename_i found rest same
    split at read
    · rename_i last
      cases read
      exact ⟨rest, same, last⟩
    · cases read
  · cases read

/-- The items of an array are read as if a comma stood before the first. -/
theorem readValue_items (fuel depth : Nat) {byte : UInt8} (opens : Opens byte) (rest : Bytes) :
    readValue (fuel + 1) (depth + 1) (91 :: byte :: rest) =
      (readItems (fuel + 1) depth (44 :: byte :: rest)).map fun found => (.array found.1, found.2) := by
  rw [readValue_array fuel depth opens, readItems_item]
  cases readValue fuel depth (byte :: rest) with
  | none => rfl
  | some found => simp [Option.map_map, Function.comp_def]

theorem readValue_members (fuel depth : Nat) {key : Bytes} (enclosed : Enclosed key) (text : Bytes) :
    readValue (fuel + 1) (depth + 1) (123 :: 34 :: (key ++ 34 :: 58 :: text)) =
      (readMembers (fuel + 1) depth (44 :: 34 :: (key ++ 34 :: 58 :: text))).map fun found =>
        (.object found.1, found.2) := by
  rw [readValue_object fuel depth enclosed, readMembers_member fuel depth enclosed]
  cases readValue fuel depth text with
  | none => rfl
  | some found => simp [Option.map_map, Function.comp_def]

/-! ### Members -/

/-- Whoever reads the value, and finds something that fits, has read all of it and nothing else. -/
def Exact (fits : Value → Prop) (holds : Prop) (value : Value) : Prop :=
  ∀ fuel depth rest found after, Breaks isNumeral rest →
    readValue fuel depth (value.text ++ rest) = some (found, after) → fits found →
      found = value ∧ after = rest ∧ holds

theorem exact_number {n : Numeral} (ok : n.Ok) (fits : Value → Prop) : Exact fits True (.number n) := by
  intro fuel depth rest found after stops read _
  cases fuel with
  | zero => cases read
  | succ fuel =>
    rw [Value.text, readValue_number fuel depth ok stops] at read
    cases read
    exact ⟨rfl, rfl, trivial⟩

theorem exact_string {raw : Bytes} {fits : Value → Prop} {holds : Prop}
    (exact : ∀ rest found after, scanString (raw ++ 34 :: rest) = some (found, after) → fits (.string found) →
      found = raw ∧ after = rest ∧ holds) : Exact fits holds (.string raw) := by
  intro fuel depth rest found after _ read fit
  have text : (Value.string raw).text ++ rest = 34 :: (raw ++ 34 :: rest) := by simp [Value.text]
  cases fuel with
  | zero => cases read
  | succ fuel =>
    rw [text, readValue_string] at read
    obtain ⟨⟨inside, behind⟩, scan, same⟩ := Option.map_eq_some_iff.mp read
    cases same
    obtain ⟨rfl, rfl, held⟩ := exact rest inside behind scan fit
    exact ⟨rfl, rfl, held⟩

theorem exact_enclosed {raw : Bytes} (enclosed : Enclosed raw) (fits : Value → Prop) : Exact fits True (.string raw) := by
  apply exact_string
  intro rest found after scan _
  rw [enclosed rest] at scan
  cases scan
  exact ⟨rfl, rfl, trivial⟩

section
variable {ι : Type} {key : ι → Bytes} {value : ι → Value} {fits : ι → Value → Prop} {holds : ι → Prop}
  {fuel depth : Nat} {rest after : Bytes}

theorem readMembers_exact {items : List ι} {members : List (Bytes × Value)} (keys : ∀ i ∈ items, Enclosed (key i))
    (exact : ∀ i ∈ items, Exact (fits i) (holds i) (value i))
    (read : readMembers fuel depth (membersText (items.map fun i => (key i, value i)) ++ rest) = some (members, after))
    (each : List.Forall₂ (fun member i => fits i member.2) members items) :
    members = items.map (fun i => (key i, value i)) ∧ after = rest ∧ ∀ i ∈ items, holds i := by
  induction items generalizing fuel members with
  | nil =>
    cases fuel with
    | zero => cases read
    | succ fuel =>
      rw [List.map_nil, membersText, List.singleton_append, readMembers, expect_here (by decide)] at read
      cases read
      exact ⟨rfl, rfl, by simp⟩
  | cons i items ih =>
    cases fuel with
    | zero => cases read
    | succ fuel =>
      have text : membersText ((i :: items).map fun i => (key i, value i)) ++ rest = 44 :: 34 ::
          (key i ++ 34 :: 58 :: ((value i).text ++ (membersText (items.map fun i => (key i, value i)) ++ rest))) := by
        simp [membersText]
      rw [text, readMembers_member fuel depth (keys i List.mem_cons_self)] at read
      obtain ⟨⟨found, behind⟩, first, read⟩ := Option.bind_eq_some_iff.mp read
      obtain ⟨⟨others, last⟩, second, same⟩ := Option.map_eq_some_iff.mp read
      cases same
      obtain ⟨fit, later⟩ := List.forall₂_cons.mp each
      obtain ⟨rfl, rfl, held⟩ := exact i List.mem_cons_self fuel depth _ found behind (membersText_breaks _ rest) first fit
      obtain ⟨rfl, rfl, all⟩ := ih (fun j member => keys j (List.mem_cons_of_mem _ member))
        (fun j member => exact j (List.mem_cons_of_mem _ member)) second later
      exact ⟨rfl, rfl, List.forall_mem_cons.mpr ⟨held, all⟩⟩

/-- An object whose members are found to fit has been read as it was written. -/
theorem readValue_exact {i : ι} {items : List ι} {members : List (Bytes × Value)}
    (keys : ∀ j ∈ i :: items, Enclosed (key j)) (exact : ∀ j ∈ i :: items, Exact (fits j) (holds j) (value j))
    (read : readValue fuel depth ((Value.object ((i :: items).map fun j => (key j, value j))).text ++ rest) =
      some (.object members, after))
    (each : List.Forall₂ (fun member j => fits j member.2) members (i :: items)) :
    members = (i :: items).map (fun j => (key j, value j)) ∧ after = rest ∧ ∀ j ∈ i :: items, holds j := by
  have text : (Value.object ((i :: items).map fun j => (key j, value j))).text ++ rest = 123 :: 34 ::
      (key i ++ 34 :: 58 :: ((value i).text ++ (membersText (items.map fun j => (key j, value j)) ++ rest))) := by
    simp [Value.text]
  have listed : membersText ((i :: items).map fun j => (key j, value j)) ++ rest = 44 :: 34 ::
      (key i ++ 34 :: 58 :: ((value i).text ++ (membersText (items.map fun j => (key j, value j)) ++ rest))) := by
    simp [membersText]
  rcases fuel with _ | fuel
  · cases read
  rcases depth with _ | depth
  · rw [text, readValue, skip_opens (by decide)] at read
    cases read
  rw [text, readValue_members fuel depth (keys i List.mem_cons_self), ← listed] at read
  obtain ⟨⟨found, last⟩, listing, same⟩ := Option.map_eq_some_iff.mp read
  cases same
  exact readMembers_exact keys exact listing each

end

/-! ### How much is read -/

theorem skip_length (text : Bytes) : (skip text).length ≤ text.length := (List.dropWhile_suffix _).length_le

theorem expect_length {byte : UInt8} {text rest : Bytes} (found : expect byte text = some rest) :
    rest.length + 1 ≤ text.length := by
  have shorter := skip_length text
  unfold expect at found
  split at found
  · cases found
  · rename_i same
    split at found
    · cases found
      rw [same, List.length_cons] at shorter
      exact shorter
    · cases found

theorem scanQuoted_length {text raw rest : Bytes} (scan : scanQuoted text = some (raw, rest)) :
    raw.length + rest.length + 2 ≤ text.length := by
  have shorter := skip_length text
  unfold scanQuoted at scan
  split at scan
  · cases scan
  · rename_i more same
    split at scan
    · have spans := congrArg List.length (scanString_spans scan)
      rw [same] at shorter
      simp only [List.length_append, List.length_cons] at spans shorter
      omega
    · cases scan

theorem scanDigits_spans {text digits rest : Bytes} (scan : scanDigits text = some (digits, rest)) :
    text = digits ++ rest ∧ digits ≠ [] := by
  unfold scanDigits at scan
  dsimp only at scan
  split at scan
  · cases scan
  · rename_i some_
    cases scan
    exact ⟨(List.takeWhile_append_dropWhile).symm, some_⟩

theorem scanWhole_spans {text whole rest : Bytes} (scan : scanWhole text = some (whole, rest)) : text = whole ++ rest := by
  unfold scanWhole at scan
  split at scan
  · cases scan
  · split at scan
    · rename_i zero
      cases scan
      rw [zero]
      rfl
    · exact (scanDigits_spans scan).1

theorem scanFraction_spans {text fraction rest : Bytes} (scan : scanFraction text = some (fraction, rest)) :
    text = fractionText fraction ++ rest := by
  unfold scanFraction at scan
  split at scan
  · cases scan
    rfl
  · split at scan
    · rename_i point
      obtain ⟨rfl, some_⟩ := scanDigits_spans scan
      rw [point, fractionText, if_neg some_]
      rfl
    · cases scan
      rfl

/-- The exponent may be written shorter than it would be printed. -/
theorem scanNumeral_spans {text rest : Bytes} {n : Numeral} (scan : scanNumeral text = some (n, rest))
    (whole : n.exponent = none) : text = n.text ++ rest := by
  unfold scanNumeral at scan
  obtain ⟨⟨digits, later⟩, first, scan⟩ := Option.bind_eq_some_iff.mp scan
  obtain ⟨⟨fraction, last⟩, second, scan⟩ := Option.bind_eq_some_iff.mp scan
  obtain ⟨⟨exponent, behind⟩, third, same⟩ := Option.bind_eq_some_iff.mp scan
  cases same
  obtain rfl : exponent = none := whole
  obtain rfl : last = rest := by
    unfold scanExponent at third
    split at third
    · cases third
      rfl
    · split at third
      · split at third
        · cases third
        · obtain ⟨found, -, same⟩ := Option.map_eq_some_iff.mp third
          cases same
      · cases third
        rfl
  have parts : (if text.head? = some 45 then text.drop 1 else text) = digits ++ (fractionText fraction ++ last) := by
    rw [← scanFraction_spans second]
    exact scanWhole_spans first
  unfold Numeral.text
  dsimp only
  rw [exponentText, List.append_nil, List.append_assoc, List.append_assoc, ← parts]
  by_cases negative : text.head? = some 45
  · rw [if_pos negative, if_pos (by simpa using negative)]
    cases text with
    | nil => cases negative
    | cons byte text =>
      obtain rfl : byte = 45 := Option.some.inj negative
      rfl
  · rw [if_neg negative, if_neg (by simpa using negative)]
    rfl

/-- No number has an exponent. -/
inductive Compact : Value → Prop where
  | null : Compact .null
  | bool (value : Bool) : Compact (.bool value)
  | number {numeral : Numeral} (whole : numeral.exponent = none) : Compact (.number numeral)
  | string (raw : Bytes) : Compact (.string raw)
  | array {items : List Value} (all : ∀ item ∈ items, Compact item) : Compact (.array items)
  | object {members : List (Bytes × Value)} (all : ∀ pair ∈ members, Compact pair.2) : Compact (.object members)

/-- The ways a value is read; `text` is what is left after its first byte. -/
inductive ReadCase (fuel depth : Nat) (text rest : Bytes) : Value → Prop
  | noItems : expect 93 text = some rest → ReadCase fuel depth text rest (.array [])
  | array {item : Value} {items : List Value} {after : Bytes} : readValue fuel depth text = some (item, after) →
      readItems fuel depth after = some (items, rest) → ReadCase fuel depth text rest (.array (item :: items))
  | noMembers : expect 125 text = some rest → ReadCase fuel depth text rest (.object [])
  | object {key afterKey afterColon after : Bytes} {value : Value} {members : List (Bytes × Value)} :
      scanQuoted text = some (key, afterKey) → expect 58 afterKey = some afterColon →
      readValue fuel depth afterColon = some (value, after) → readMembers fuel depth after = some (members, rest) →
      ReadCase fuel depth text rest (.object ((key, value) :: members))
  | string {raw : Bytes} : scanString text = some (raw, rest) → ReadCase fuel depth text rest (.string raw)
  | literal {value : Value} {byte : UInt8} : byte :: text = value.text ++ rest → ReadCase fuel depth text rest value
  | number {numeral : Numeral} {byte : UInt8} : scanNumeral (byte :: text) = some (numeral, rest) →
      ReadCase fuel depth text rest (.number numeral)

theorem scanLiteral_spans (value : Value) {found : Value} {text rest : Bytes}
    (scan : scanLiteral value.text value text = some (found, rest)) : found = value ∧ text = value.text ++ rest := by
  unfold scanLiteral at scan
  split at scan
  · rename_i same
    cases scan
    refine ⟨rfl, ?_⟩
    conv => lhs; rw [← List.take_append_drop value.text.length text, same]
  · cases scan

theorem readValue_cases {fuel depth : Nat} {text rest : Bytes} {value : Value}
    (read : readValue (fuel + 1) depth text = some (value, rest)) :
    ∃ byte more, skip text = byte :: more ∧ ReadCase fuel (depth - 1) more rest value := by
  rw [readValue] at read
  rcases start : skip text with _ | ⟨byte, more⟩
  · rw [start] at read
    cases read
  rw [start] at read
  refine ⟨byte, more, rfl, ?_⟩
  dsimp only at read
  split at read
  · split at read
    · cases read
    · split at read
      · rename_i closed
        cases read
        exact .noItems closed
      · obtain ⟨⟨item, after⟩, first, read⟩ := Option.bind_eq_some_iff.mp read
        obtain ⟨⟨items, last⟩, second, same⟩ := Option.bind_eq_some_iff.mp read
        cases same
        exact .array first second
  split at read
  · split at read
    · cases read
    · split at read
      · rename_i closed
        cases read
        exact .noMembers closed
      · obtain ⟨⟨key, afterKey⟩, name, read⟩ := Option.bind_eq_some_iff.mp read
        obtain ⟨afterColon, colon, read⟩ := Option.bind_eq_some_iff.mp read
        obtain ⟨⟨first, after⟩, here, read⟩ := Option.bind_eq_some_iff.mp read
        obtain ⟨⟨members, last⟩, later, same⟩ := Option.bind_eq_some_iff.mp read
        cases same
        exact .object name colon here later
  split at read
  · obtain ⟨⟨raw, last⟩, scan, same⟩ := Option.map_eq_some_iff.mp read
    cases same
    exact .string scan
  split at read
  · obtain ⟨rfl, spans⟩ := scanLiteral_spans .null read
    exact .literal spans
  split at read
  · obtain ⟨rfl, spans⟩ := scanLiteral_spans (.bool true) read
    exact .literal spans
  split at read
  · obtain ⟨rfl, spans⟩ := scanLiteral_spans (.bool false) read
    exact .literal spans
  · obtain ⟨⟨numeral, last⟩, scan, same⟩ := Option.map_eq_some_iff.mp read
    cases same
    exact .number scan

/-- A text is at least as long as what is read of it would be printed. -/
structure Spans (fuel : Nat) : Prop where
  value {depth : Nat} {text rest : Bytes} {value : Value} : readValue fuel depth text = some (value, rest) →
    Compact value → value.text.length + rest.length ≤ text.length
  items {depth : Nat} {text rest : Bytes} {items : List Value} : readItems fuel depth text = some (items, rest) →
    (∀ item ∈ items, Compact item) → (itemsText items).length + rest.length ≤ text.length
  members {depth : Nat} {text rest : Bytes} {members : List (Bytes × Value)} :
    readMembers fuel depth text = some (members, rest) → (∀ pair ∈ members, Compact pair.2) →
    (membersText members).length + rest.length ≤ text.length

section
variable {fuel depth : Nat} {text rest : Bytes} (spans : Spans fuel)
include spans

theorem readItems_spans {items : List Value} (read : readItems (fuel + 1) depth text = some (items, rest))
    (compact : ∀ item ∈ items, Compact item) : (itemsText items).length + rest.length ≤ text.length := by
  rw [readItems] at read
  split at read
  · rename_i closed
    cases read
    have := expect_length closed
    simp only [itemsText, List.length_singleton]
    omega
  · obtain ⟨after, comma, read⟩ := Option.bind_eq_some_iff.mp read
    obtain ⟨⟨item, behind⟩, first, read⟩ := Option.bind_eq_some_iff.mp read
    obtain ⟨⟨others, last⟩, second, same⟩ := Option.bind_eq_some_iff.mp read
    cases same
    have separator := expect_length comma
    have here := spans.value first (compact item List.mem_cons_self)
    have later := spans.items second fun other member => compact other (List.mem_cons_of_mem _ member)
    simp only [itemsText, List.length_append, List.length_cons]
    omega

theorem readMembers_spans {members : List (Bytes × Value)}
    (read : readMembers (fuel + 1) depth text = some (members, rest)) (compact : ∀ pair ∈ members, Compact pair.2) :
    (membersText members).length + rest.length ≤ text.length := by
  rw [readMembers] at read
  split at read
  · rename_i closed
    cases read
    have := expect_length closed
    simp only [membersText, List.length_singleton]
    omega
  · obtain ⟨after, comma, read⟩ := Option.bind_eq_some_iff.mp read
    obtain ⟨⟨key, afterKey⟩, name, read⟩ := Option.bind_eq_some_iff.mp read
    obtain ⟨afterColon, colon, read⟩ := Option.bind_eq_some_iff.mp read
    obtain ⟨⟨value, behind⟩, first, read⟩ := Option.bind_eq_some_iff.mp read
    obtain ⟨⟨others, last⟩, second, same⟩ := Option.bind_eq_some_iff.mp read
    cases same
    have separator := expect_length comma
    have quoted := scanQuoted_length name
    have mark := expect_length colon
    have here := spans.value first (compact _ List.mem_cons_self)
    have later := spans.members second fun pair member => compact pair (List.mem_cons_of_mem _ member)
    simp only [membersText, List.length_append, List.length_cons]
    omega

theorem readValue_spans {value : Value} (read : readValue (fuel + 1) depth text = some (value, rest))
    (compact : Compact value) : value.text.length + rest.length ≤ text.length := by
  obtain ⟨byte, more, start, case_⟩ := readValue_cases read
  have shorter := skip_length text
  rw [start, List.length_cons] at shorter
  cases case_ with
  | noItems closed | noMembers closed =>
    have := expect_length closed
    simp only [Value.text, List.length_cons, List.length_nil]
    omega
  | array first second =>
    obtain ⟨⟩ | ⟨⟩ | ⟨⟩ | ⟨⟩ | ⟨all⟩ := compact
    have here := spans.value first (all _ List.mem_cons_self)
    have later := spans.items second fun other member => all other (List.mem_cons_of_mem _ member)
    simp only [Value.text, List.length_append, List.length_cons]
    omega
  | object name colon first second =>
    obtain ⟨⟩ | ⟨⟩ | ⟨⟩ | ⟨⟩ | ⟨⟩ | ⟨all⟩ := compact
    have quoted := scanQuoted_length name
    have mark := expect_length colon
    have here := spans.value first (all _ List.mem_cons_self)
    have later := spans.members second fun pair member => all pair (List.mem_cons_of_mem _ member)
    simp only [Value.text, List.length_append, List.length_cons]
    omega
  | string scan =>
    have lengths := congrArg List.length (scanString_spans scan)
    simp only [Value.text, List.length_append, List.length_cons, List.length_nil] at lengths ⊢
    omega
  | literal same =>
    have lengths := congrArg List.length same
    simp only [List.length_append, List.length_cons] at lengths
    omega
  | number scan =>
    obtain ⟨⟩ | ⟨⟩ | ⟨whole⟩ := compact
    have lengths := congrArg List.length (scanNumeral_spans scan whole)
    simp only [Value.text, List.length_append, List.length_cons] at lengths ⊢
    omega

end

theorem spans_text (fuel : Nat) : Spans fuel := by
  induction fuel with
  | zero => exact ⟨nofun, nofun, nofun⟩
  | succ fuel ih => exact ⟨readValue_spans ih, readItems_spans ih, readMembers_spans ih⟩

/-! ### Lists that are cut off -/

theorem readItems_nil (fuel depth : Nat) : readItems fuel depth [] = none := by
  cases fuel with
  | zero => rfl
  | succ fuel => rw [readItems]; rfl

theorem readItems_closed (fuel depth : Nat) (rest : Bytes) : readItems (fuel + 1) depth (93 :: rest) = some ([], rest) := by
  rw [readItems, expect_here (by decide)]

theorem readValue_empty (fuel depth : Nat) (rest : Bytes) :
    readValue (fuel + 1) depth (91 :: 93 :: rest) = if depth = 0 then none else some (.array [], rest) := by
  rw [readValue, skip_opens (by decide)]
  simp [expect_here (show isBlank 93 = false by decide)]

theorem cut_breaks (items : List Value) (count : Nat) : Breaks isNumeral ((itemsText items).take count ++ [93]) := by
  cases count with
  | zero => exact breaks_cons (by decide) _
  | succ count => cases items <;> exact breaks_cons (by decide) _

/-- Of an item that is cut off nothing would be left for the bracket. -/
theorem readValue_cut {value : Value} {holds : Prop} {items : List Value} {fuel depth count : Nat} {behind : Bytes}
    (exact : Exact (fun found => found = value) holds value) (compact : Compact value)
    (read : readValue fuel depth ((value.text ++ itemsText items).take count ++ [93]) = some (value, behind))
    (more : behind ≠ []) :
    value.text.length ≤ count ∧ behind = (itemsText items).take (count - value.text.length) ++ [93] ∧ holds := by
  rcases Nat.lt_or_ge count value.text.length with short | long
  · have spans := (spans_text fuel).value read compact
    have some_ := List.length_pos_iff.mpr more
    rw [List.length_append, List.length_take, List.length_append, List.length_singleton] at spans
    omega
  · rw [List.take_append, List.take_of_length_le long, List.append_assoc] at read
    obtain ⟨-, same, held⟩ := exact fuel depth _ value behind (cut_breaks _ _) read rfl
    exact ⟨long, same, held⟩

section
variable {ι : Type} {value : ι → Value} {holds : ι → Prop} {fuel depth count k : Nat} {after : Bytes}

/-- A list that is cut off, closed and still read as the first of its items was cut behind one of them. -/
theorem readItems_cut {items : List ι} (exact : ∀ i ∈ items, Exact (fun found => found = value i) (holds i) (value i))
    (compact : ∀ i ∈ items, Compact (value i)) (short : count < (itemsText (items.map value)).length)
    (read : readItems fuel depth ((itemsText (items.map value)).take count ++ [93]) =
      some ((items.take k).map value, after)) :
    (itemsText ((items.take k).map value)).length = count + 1 ∧ ∀ i ∈ items.take k, holds i := by
  induction items generalizing fuel count k with
  | nil =>
    have none_ : count = 0 := by simpa [itemsText] using short
    subst none_
    simp [itemsText]
  | cons i items ih =>
    rcases fuel with _ | fuel
    · cases read
    cases count with
    | zero =>
      rw [List.take_zero, List.nil_append, readItems_closed] at read
      cases k with
      | zero => simp [itemsText]
      | succ k => cases read
    | succ count =>
      have text : (itemsText ((i :: items).map value)).take (count + 1) ++ [93] =
          44 :: (((value i).text ++ itemsText (items.map value)).take count ++ [93]) := by
        simp [itemsText]
      rw [text, readItems_item] at read
      obtain ⟨⟨found, behind⟩, first, read⟩ := Option.bind_eq_some_iff.mp read
      obtain ⟨⟨others, last⟩, second, same⟩ := Option.map_eq_some_iff.mp read
      cases k with
      | zero => cases same
      | succ k =>
        obtain ⟨rfl, rfl⟩ := List.cons.inj (Prod.mk.inj same).1
        obtain rfl := (Prod.mk.inj same).2
        have more : behind ≠ [] := by
          rintro rfl
          rw [readItems_nil] at second
          cases second
        obtain ⟨long, rfl, held⟩ := readValue_cut (exact i List.mem_cons_self) (compact i List.mem_cons_self) first more
        rw [List.map_cons, itemsText, List.length_append, List.length_cons] at short
        obtain ⟨length, all⟩ := ih (fun j member => exact j (List.mem_cons_of_mem _ member))
          (fun j member => compact j (List.mem_cons_of_mem _ member)) (by omega) second
        refine ⟨?_, List.forall_mem_cons.mpr ⟨held, all⟩⟩
        rw [List.take_succ_cons, List.map_cons, itemsText, List.length_append, List.length_cons, length]
        omega

theorem readArray_cut {items : List ι} (starts : ∀ i ∈ items, ∃ byte more, (value i).text = byte :: more ∧ Opens byte)
    (exact : ∀ i ∈ items, Exact (fun found => found = value i) (holds i) (value i))
    (compact : ∀ i ∈ items, Compact (value i)) (opened : 0 < count)
    (short : count < (Value.array (items.map value)).text.length)
    (read : readValue fuel depth ((Value.array (items.map value)).text.take count ++ [93]) =
      some (.array ((items.take k).map value), after)) :
    (Value.array ((items.take k).map value)).text.length = count + 1 ∧ ∀ i ∈ items.take k, holds i := by
  obtain ⟨count, rfl⟩ := Nat.exists_eq_succ_of_ne_zero (Nat.ne_of_gt opened)
  rcases fuel with _ | fuel
  · cases read
  cases items with
  | nil =>
    have none_ : count = 0 := by simpa [Value.text] using short
    subst none_
    simp [Value.text]
  | cons i items =>
    cases count with
    | zero =>
      have text : (Value.array ((i :: items).map value)).text.take 1 ++ [93] = [91, 93] := by simp [Value.text]
      cases k with
      | zero => simp [Value.text]
      | succ k =>
        rw [text, readValue_empty] at read
        split at read <;> cases read
    | succ count =>
      obtain ⟨byte, more, start, opens⟩ := starts i List.mem_cons_self
      have text : (Value.array ((i :: items).map value)).text.take (count + 2) ++ [93] =
          91 :: byte :: ((more ++ itemsText (items.map value)).take count ++ [93]) := by
        simp [Value.text, start]
      have listed : (itemsText ((i :: items).map value)).take (count + 2) ++ [93] =
          44 :: byte :: ((more ++ itemsText (items.map value)).take count ++ [93]) := by
        simp [itemsText, start]
      rcases depth with _ | depth
      · rw [text, readValue, skip_opens (by decide)] at read
        cases read
      rw [text, readValue_items fuel depth opens, ← listed] at read
      obtain ⟨⟨found, last⟩, listing, same⟩ := Option.map_eq_some_iff.mp read
      cases same
      have inside : count + 2 < (itemsText ((i :: items).map value)).length := by
        simp only [List.map_cons, Value.text, itemsText, List.length_append, List.length_cons] at short ⊢
        exact short
      obtain ⟨length, held⟩ := readItems_cut exact compact inside listing
      refine ⟨?_, held⟩
      cases k with
      | zero => simp [itemsText] at length
      | succ k => simpa [Value.text, itemsText] using length

end

end StbEbpf.Json
