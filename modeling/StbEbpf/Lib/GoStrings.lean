import StbEbpf.Lib.Decimal
import StbEbpf.Lib.Utf8

/-!
Parts of Go's `strings`, `bufio` and `strconv` on the bytes of a string. The upper and lower case of runes beyond ASCII
are Unicode's tables and left open; white space is the class of `unicode.IsSpace`.
-/

namespace StbEbpf.GoStrings
open CText Utf8

/-! ### Cutting -/

/-- What stands before and after the first `separator`: the slices around `strings.Index`. -/
def cutAt (separator : UInt8) : Bytes → Option (Bytes × Bytes)
  | [] => none
  | byte :: rest =>
    if byte = separator then some ([], rest)
    else (cutAt separator rest).map fun parts => (byte :: parts.1, parts.2)

/-- `strings.SplitN`. -/
def splitN (separator : UInt8) : Nat → Bytes → List Bytes
  | 0, _ => []
  | 1, text => [text]
  | n + 2, text =>
    match cutAt separator text with
    | none => [text]
    | some (first, rest) => first :: splitN separator (n + 1) rest

def hasPrefix (text start : Bytes) : Bool := start.isPrefixOf text

def contains (text piece : Bytes) : Bool := decide (piece <:+: text)

section
variable {separator : UInt8} {first : Bytes}

theorem cutAt_append (absent : separator ∉ first) (rest : Bytes) :
    cutAt separator (first ++ separator :: rest) = some (first, rest) := by
  induction first with
  | nil => exact if_pos rfl
  | cons byte first ih =>
    have other : byte ≠ separator := fun same => absent (by simp [same])
    rw [List.cons_append, cutAt, if_neg other, ih fun member => absent (by simp [member])]
    rfl

theorem splitN_append (absent : separator ∉ first) (n : Nat) (rest : Bytes) :
    splitN separator (n + 2) (first ++ separator :: rest) = first :: splitN separator (n + 1) rest := by
  rw [splitN, cutAt_append absent]

end

/-! ### Upper and lower case -/

/-- The case of the runes of more than one byte. -/
structure CaseTable where
  lower : Bytes → Bytes
  upper : Bytes → Bytes

def toUpperAscii (byte : UInt8) : UInt8 := if 97 ≤ byte ∧ byte ≤ 122 then byte - 32 else byte

def mapCase (ascii : UInt8 → UInt8) (wide : Bytes → Bytes) : Piece → Bytes
  | .ascii byte => [ascii byte]
  | .wide bytes => wide bytes
  | .stray _ => replacement

def toLower (table : CaseTable) (text : Bytes) : Bytes := (pieces text).flatMap (mapCase Access.toLower table.lower)

def toUpper (table : CaseTable) (text : Bytes) : Bytes := (pieces text).flatMap (mapCase toUpperAscii table.upper)

theorem mapCase_low (f : UInt8 → UInt8) (g : Bytes → Bytes) (low : Bytes) :
    (low.map Piece.ascii).flatMap (mapCase f g) = low.map f := by
  rw [List.flatMap_map, List.map_eq_flatMap]
  rfl

section
variable (table : CaseTable) {low : Bytes} (ascii : ∀ byte ∈ low, byte < 0x80)
include ascii

theorem toLower_low (rest : Bytes) : toLower table (low ++ rest) = low.map Access.toLower ++ toLower table rest := by
  unfold toLower
  rw [pieces_low ascii, List.flatMap_append, mapCase_low]

/-- Up to a byte behind an ASCII text. -/
theorem toLower_upto {byte : UInt8} (plain : byte < 0x80) (rest : Bytes) :
    toLower table (low ++ byte :: rest) = low.map Access.toLower ++ Access.toLower byte :: toLower table rest := by
  rw [toLower_low table ascii]
  unfold toLower
  rw [pieces_ascii plain]
  rfl

theorem toUpper_append_low (text : Bytes) : toUpper table (text ++ low) = toUpper table text ++ low.map toUpperAscii := by
  unfold toUpper
  rw [pieces_append_low text ascii, List.flatMap_append, mapCase_low]

end

/-- A word that only ASCII letters are lowered to, and anything behind it, come from more bytes than the word has. -/
theorem toLower_start_longer {table : CaseTable} {word : Bytes} {last : UInt8}
    (apart : ∀ w, isWide w = true → ∀ byte ∈ word, (table.lower w).head? ≠ some byte) (low : ∀ byte ∈ word, byte < 0x80)
    {text : Bytes} (starts : word ++ [last] <+: toLower table text) : word.length < text.length := by
  have proper := pieces_proper text
  rw [← pieces_join text]
  unfold toLower at starts
  generalize pieces text = list at starts proper
  induction list generalizing word with
  | nil => exact absurd starts.length_le (by simp)
  | cons piece list ih =>
    obtain ⟨here, behind⟩ := List.forall_mem_cons.mp proper
    rw [List.flatMap_cons] at starts ⊢
    rw [List.length_append]
    cases word with
    | nil =>
      have some_ : piece.bytes ≠ [] := by
        rintro empty
        cases piece with
        | ascii | stray => cases empty
        | wide rune => cases empty; cases here
      have positive := List.length_pos_of_ne_nil some_
      rw [List.length_nil]
      omega
    | cons byte word =>
      cases piece with
      | ascii letter =>
        have rest := ih (fun w wide other member => apart w wide other (List.mem_cons_of_mem _ member))
          (fun other member => low other (List.mem_cons_of_mem _ member)) (List.cons_prefix_cons.mp starts).2 behind
        show word.length + 1 < 1 + _
        omega
      | wide rune =>
        have other := apart rune here byte List.mem_cons_self
        cases lowered : table.lower rune with
        | nil =>
          rw [mapCase, lowered, List.nil_append] at starts
          exact Nat.lt_of_lt_of_le (ih apart low starts behind) (Nat.le_add_left _ _)
        | cons first more =>
          rw [mapCase, lowered, List.cons_append] at starts
          rw [lowered, (List.cons_prefix_cons.mp starts).1] at other
          exact absurd rfl other
      | stray =>
        have head : byte = 0xEF := (List.cons_prefix_cons.mp starts).1
        exact absurd (low byte List.mem_cons_self) (by rw [head]; decide)

/-! ### Words in a text -/

/-- A word is not found across the start of bytes that it does not have. -/
theorem infix_append_of_disjoint {α : Type} {word text tail : List α} (apart : ∀ x ∈ word, x ∉ tail)
    (inside : word <:+: text ++ tail) : word <:+: text := by
  obtain ⟨before, after, same⟩ := inside
  obtain ⟨more, rfl, -⟩ | ⟨more, whole, rfl⟩ := List.append_eq_append_iff.mp same
  · exact ⟨before, more, rfl⟩
  · cases last : more.reverse with
    | nil =>
      obtain rfl : more = [] := List.reverse_eq_nil_iff.mp last
      rw [List.append_nil] at whole
      exact ⟨before, [], by rw [List.append_nil, whole]⟩
    | cons x initial =>
      obtain rfl : more = initial.reverse ++ [x] := by rw [← List.reverse_reverse more, last, List.reverse_cons]
      cases word using List.reverseRecOn with
      | nil => exact List.nil_infix
      | append_singleton word y =>
        rw [← List.append_assoc, ← List.append_assoc] at whole
        obtain ⟨-, final⟩ := List.append_inj' whole rfl
        obtain rfl : y = x := by simpa using final
        exact absurd (by simp) (apart y (by simp))

/-- A word without the separator lies on one side of it. -/
theorem infix_append_cons {α : Type} {word before after : List α} {x : α} (absent : x ∉ word)
    (inside : word <:+: before ++ x :: after) : word <:+: before ∨ word <:+: after := by
  obtain ⟨left, right, same⟩ := inside
  obtain ⟨more, rfl, -⟩ | ⟨more, whole, tail⟩ := List.append_eq_append_iff.mp same
  · exact .inl ⟨left, more, rfl⟩
  · cases more with
    | nil =>
      rw [List.append_nil] at whole
      exact .inl ⟨left, [], by rw [List.append_nil, whole]⟩
    | cons y more =>
      obtain ⟨rfl, rfl⟩ := List.cons.inj tail
      -- The word ends behind the separator and does not have it, so it starts behind it.
      obtain ⟨extra, -, here⟩ | ⟨extra, rfl, here⟩ := List.append_eq_append_iff.mp whole
      · exact absurd (here ▸ by simp) absent
      · cases extra with
        | nil =>
          rw [List.nil_append] at here
          exact absurd (here ▸ List.mem_cons_self) absent
        | cons z extra =>
          obtain ⟨rfl, rfl⟩ := List.cons.inj here
          exact .inr ⟨extra, right, by simp⟩

/-- What a cut text contains in upper case, the whole text contains: a rune across the cut gives no ASCII. -/
theorem contains_toUpper_take (table : CaseTable) {word : Bytes} (low : ∀ byte ∈ word, byte < 0x80) (text : Bytes) (n : Nat)
    (found : contains (toUpper table (text.take n)) word = true) : contains (toUpper table text) word = true := by
  obtain ⟨whole, rest, cut, more, all⟩ := pieces_take text n
  unfold contains toUpper at found ⊢
  rw [decide_eq_true_eq] at found ⊢
  rw [cut, List.flatMap_append] at found
  have apart : ∀ byte ∈ word, byte ∉ (rest.map Piece.stray).flatMap (mapCase toUpperAscii table.upper) := by
    intro byte member inside
    obtain ⟨piece, stray, made⟩ := List.mem_flatMap.mp inside
    obtain ⟨_, -, rfl⟩ := List.mem_map.mp stray
    have high : ∀ other ∈ replacement, ¬ other < 0x80 := isWide_high (w := replacement) (by decide)
    exact high byte made (low byte member)
  rw [← all, List.flatMap_append]
  exact (infix_append_of_disjoint apart found).trans (List.prefix_append _ _).isInfix

/-! ### Splitting at a pair of bytes -/

/-- `bytes.Split` with a separator of two bytes; `line` is what was read since the last one. -/
def splitPair (first second : UInt8) : Bytes → Bytes → List Bytes
  | line, [] => [line]
  | line, [byte] => [line ++ [byte]]
  | line, byte :: next :: rest =>
    if byte = first ∧ next = second then line :: splitPair first second [] rest
    else splitPair first second (line ++ [byte]) (next :: rest)

section
variable {first second : UInt8}

theorem splitPair_ne_nil (line text : Bytes) : splitPair first second line text ≠ [] := by
  fun_induction splitPair first second line text with
  | case1 | case2 | case3 => exact List.cons_ne_nil _ _
  | case4 _ _ _ _ _ ih => exact ih

/-- What stands before the first separator is a part. -/
theorem splitPair_append (apart : first ≠ second) {part : Bytes} (unbroken : ¬ [first, second] <:+: part) (line rest : Bytes) :
    splitPair first second line (part ++ first :: second :: rest) = (line ++ part) :: splitPair first second [] rest := by
  induction part generalizing line with
  | nil => rw [List.nil_append, List.append_nil, splitPair, if_pos ⟨rfl, rfl⟩]
  | cons byte part ih =>
    have later := ih (fun inside => unbroken (inside.trans (List.suffix_cons byte part).isInfix)) (line ++ [byte])
    rw [List.append_assoc, List.singleton_append] at later
    rw [← later]
    cases part with
    | nil =>
      have other : ¬ (byte = first ∧ first = second) := fun both => apart both.2
      rw [List.cons_append, List.nil_append, splitPair, if_neg other]
    | cons next part =>
      have other : ¬ (byte = first ∧ next = second) := by
        rintro ⟨rfl, rfl⟩
        exact unbroken ⟨[], part, rfl⟩
      rw [List.cons_append, List.cons_append, splitPair, if_neg other]

/-- The first part is not touched by what follows a separator. -/
theorem head_splitPair_append (apart : first ≠ second) (line text rest : Bytes) :
    (splitPair first second line (text ++ first :: second :: rest)).head? = (splitPair first second line text).head? := by
  fun_induction splitPair first second line text with
  | case1 line => rw [List.nil_append, splitPair, if_pos ⟨rfl, rfl⟩]; rfl
  | case2 line byte =>
    have other : ¬ (byte = first ∧ first = second) := fun both => apart both.2
    rw [List.cons_append, List.nil_append, splitPair, if_neg other, splitPair, if_pos ⟨rfl, rfl⟩]
    rfl
  | case3 line byte next later both =>
    rw [List.cons_append, List.cons_append, splitPair, if_pos both]
    rfl
  | case4 line byte next later other ih =>
    rw [List.cons_append, List.cons_append, splitPair, if_neg other, ← List.cons_append, ih]

theorem pair_infix_concat {line : Bytes} {byte : UInt8} (inside : [first, second] <:+: line ++ [byte]) :
    [first, second] <:+: line ∨ line.getLast? = some first ∧ byte = second := by
  obtain ⟨before, after, same⟩ := inside
  cases after using List.reverseRecOn with
  | nil =>
    rw [List.append_nil, show before ++ [first, second] = (before ++ [first]) ++ [second] by simp] at same
    obtain ⟨front, last⟩ := List.append_inj' same rfl
    exact .inr ⟨by rw [← front, List.getLast?_concat], (List.cons.inj last).1.symm⟩
  | append_singleton after last =>
    rw [← List.append_assoc] at same
    exact .inl ⟨before, after, (List.append_inj' same rfl).1⟩

/-- No part has the separator in it. -/
theorem splitPair_unbroken {line text : Bytes} (unbroken : ¬ [first, second] <:+: line ++ text.take 1) :
    ∀ part ∈ splitPair first second line text, ¬ [first, second] <:+: part := by
  have single (byte : UInt8) : ¬ [first, second] <:+: [byte] := fun inside => absurd inside.length_le (by simp)
  fun_induction splitPair first second line text with
  | case1 line => simpa using unbroken
  | case2 line byte => simpa using unbroken
  | case3 line byte next rest both ih =>
    rw [List.forall_mem_cons]
    refine ⟨fun inside => unbroken (inside.trans (List.prefix_append _ _).isInfix), ih ?_⟩
    rw [List.nil_append]
    cases rest with
    | nil => exact fun inside => absurd inside.length_le (by simp)
    | cons byte rest => exact single byte
  | case4 line byte next rest other ih =>
    refine ih fun inside => ?_
    rcases pair_infix_concat inside with inside | ⟨last, same⟩
    · exact unbroken inside
    · rw [List.getLast?_concat] at last
      exact other ⟨Option.some.inj last, same⟩

end

/-! ### Joining -/

/-- `strings.Join` with a separator of one byte. -/
def join (separator : UInt8) (parts : List Bytes) : Bytes := [separator].intercalate parts

section
variable {separator : UInt8} {parts : List Bytes}

theorem join_cons (part : Bytes) (more : parts ≠ []) : join separator (part :: parts) = part ++ separator :: join separator parts := by
  cases parts with
  | nil => exact absurd rfl more
  | cons next parts => simp [join, List.intercalate]

theorem join_single (part : Bytes) : join separator [part] = part := by
  simp [join, List.intercalate]

theorem join_length (some_ : parts ≠ []) : (join separator parts).length + 1 = (parts.map fun part => part.length + 1).sum := by
  induction parts with
  | nil => exact absurd rfl some_
  | cons part parts ih =>
    by_cases last : parts = []
    · subst last
      rw [join_single]
      rfl
    · have later := ih last
      rw [join_cons part last, List.length_append, List.length_cons, List.map_cons, List.sum_cons]
      omega

theorem infix_join {part : Bytes} (member : part ∈ parts) : part <:+: join separator parts := by
  induction parts with
  | nil => cases member
  | cons first parts ih =>
    by_cases last : parts = []
    · subst last
      rw [join_single, List.mem_singleton.mp member]
    · rw [join_cons first last]
      rcases List.mem_cons.mp member with rfl | later
      · exact (List.prefix_append _ _).isInfix
      · exact (ih later).trans ((List.suffix_cons _ _).trans (List.suffix_append _ _)).isInfix

/-- A word without the separator is found in a part. -/
theorem infix_of_join {word : Bytes} (some_ : word ≠ []) (absent : separator ∉ word)
    (inside : word <:+: join separator parts) : ∃ part ∈ parts, word <:+: part := by
  induction parts with
  | nil => exact absurd (List.infix_nil.mp inside) some_
  | cons first parts ih =>
    by_cases last : parts = []
    · subst last
      rw [join_single] at inside
      exact ⟨first, List.mem_singleton.mpr rfl, inside⟩
    · rw [join_cons first last] at inside
      rcases infix_append_cons absent inside with here | later
      · exact ⟨first, List.mem_cons_self, here⟩
      · obtain ⟨part, member, found⟩ := ih later
        exact ⟨part, List.mem_cons_of_mem _ member, found⟩

end

/-! ### White space -/

def wideSpaces : List Bytes :=
  [[0xC2, 0x85], [0xC2, 0xA0], [0xE1, 0x9A, 0x80], [0xE2, 0x80, 0x80], [0xE2, 0x80, 0x81], [0xE2, 0x80, 0x82],
    [0xE2, 0x80, 0x83], [0xE2, 0x80, 0x84], [0xE2, 0x80, 0x85], [0xE2, 0x80, 0x86], [0xE2, 0x80, 0x87],
    [0xE2, 0x80, 0x88], [0xE2, 0x80, 0x89], [0xE2, 0x80, 0x8A], [0xE2, 0x80, 0xA8], [0xE2, 0x80, 0xA9],
    [0xE2, 0x80, 0xAF], [0xE2, 0x81, 0x9F], [0xE3, 0x80, 0x80]]

def isSpace : Piece → Bool
  | .ascii byte => Access.isSpace byte
  | .wide bytes => wideSpaces.contains bytes
  | .stray _ => false

def trimPieces (list : List Piece) : List Piece := (list.dropWhile isSpace).rdropWhile isSpace

/-- `strings.TrimSpace`. A rune is a piece wherever a scan starts, so that trimming from the end is the same. -/
def trimSpace (text : Bytes) : Bytes := (trimPieces (pieces text)).flatMap Piece.bytes

theorem trimPieces_concat (list : List Piece) (last : Piece) (space : isSpace last = true) :
    trimPieces (list ++ [last]) = trimPieces list := by
  unfold trimPieces
  rw [List.dropWhile_append]
  split
  · rename_i all
    rw [List.dropWhile_cons_of_pos space, List.isEmpty_iff.mp all]
    rfl
  · exact List.rdropWhile_concat_pos _ _ _ space

/-- A line end does not show in what is trimmed. -/
theorem trimSpace_append (text : Bytes) {spaces : Bytes} (all : ∀ byte ∈ spaces, Access.isSpace byte = true) :
    trimSpace (text ++ spaces) = trimSpace text := by
  induction spaces using List.reverseRecOn with
  | nil => rw [List.append_nil]
  | append_singleton spaces last ih =>
    have space := all last (by simp)
    have low : ∀ byte ∈ [last], byte < 0x80 := by
      simp only [List.mem_singleton, forall_eq]
      unfold Access.isSpace at space
      have each : ∀ byte : UInt8, (byte = 32 ∨ 9 ≤ byte ∧ byte ≤ 13) → byte < 0x80 := by decide +kernel
      exact each last (by simpa using space)
    rw [← List.append_assoc, trimSpace, pieces_append_low _ low, List.map_singleton,
      trimPieces_concat _ (.ascii last) space]
    exact ih fun byte member => all byte (by simp [member])

/-- A text between two visible ASCII bytes is left as it is. -/
theorem trimSpace_visible {first last : UInt8} (middle : Bytes) (start : first < 0x80 ∧ Access.isSpace first = false)
    (stop : last < 0x80 ∧ Access.isSpace last = false) :
    trimSpace (first :: (middle ++ [last])) = first :: (middle ++ [last]) := by
  have whole := pieces_join (first :: (middle ++ [last]))
  have low : ∀ byte ∈ [last], byte < 0x80 := by simpa using stop.1
  rw [pieces_ascii start.1, pieces_append_low middle low, List.map_singleton] at whole
  unfold trimSpace trimPieces
  rw [pieces_ascii start.1, pieces_append_low middle low, List.map_singleton, ← List.cons_append,
    List.cons_append, List.dropWhile_cons_of_neg (by simp [isSpace, start.2]), ← List.cons_append,
    List.rdropWhile_concat_neg _ _ _ (by simp [isSpace, stop.2])]
  exact whole

theorem trimPieces_visible {list : List Piece} (visible : ∀ piece ∈ list, isSpace piece = false) :
    trimPieces list = list := by
  have front : list.dropWhile isSpace = list := by
    refine List.dropWhile_eq_self_iff.mpr fun some_ => ?_
    simpa using visible _ (List.getElem_mem some_)
  unfold trimPieces
  rw [front]
  refine List.rdropWhile_eq_self_iff.mpr fun some_ => ?_
  simpa using visible _ (List.getLast_mem some_)

theorem trimSpace_token {text : Bytes} (low : ∀ byte ∈ text, byte < 0x80)
    (visible : ∀ byte ∈ text, Access.isSpace byte = false) : trimSpace text = text := by
  have runes := pieces_low low []
  rw [List.append_nil, show pieces [] = [] from rfl, List.append_nil] at runes
  have plain : ∀ piece ∈ pieces text, isSpace piece = false := by
    rw [runes]
    intro piece member
    obtain ⟨byte, inside, rfl⟩ := List.mem_map.mp member
    exact visible byte inside
  unfold trimSpace
  rw [trimPieces_visible plain, pieces_join]

/-- A text that neither starts nor ends with white space. -/
def NoOuterSpace (text : Bytes) : Prop :=
  (∀ piece ∈ (pieces text).head?, isSpace piece = false) ∧ ∀ piece ∈ (pieces text).getLast?, isSpace piece = false

instance (text : Bytes) : Decidable (NoOuterSpace text) := by
  unfold NoOuterSpace
  infer_instance

theorem trimSpace_of_noOuterSpace {text : Bytes} (visible : NoOuterSpace text) : trimSpace text = text := by
  obtain ⟨first, last⟩ := visible
  have front : (pieces text).dropWhile isSpace = pieces text := by
    refine List.dropWhile_eq_self_iff.mpr fun some_ => ?_
    simpa using first (pieces text)[0] (by rw [List.head?_eq_getElem?, List.getElem?_eq_getElem some_]; rfl)
  have back : (pieces text).rdropWhile isSpace = pieces text := by
    refine List.rdropWhile_eq_self_iff.mpr fun some_ => ?_
    simpa using last _ (by rw [List.getLast?_eq_some_getLast some_]; rfl)
  unfold trimSpace trimPieces
  rw [front, back, pieces_join]

theorem trimSpace_infix (text : Bytes) : trimSpace text <:+: text := by
  have inner : trimPieces (pieces text) <:+: pieces text :=
    (List.rdropWhile_prefix _ _).isInfix.trans (List.dropWhile_suffix _).isInfix
  obtain ⟨before, after, same⟩ := inner
  refine ⟨before.flatMap Piece.bytes, after.flatMap Piece.bytes, ?_⟩
  rw [trimSpace, ← List.flatMap_append, ← List.flatMap_append, same, pieces_join]

/-! ### Lines -/

/-- What `ReadString` with a line feed returns call after call, until it fails at the end of the text. -/
def readLines : Bytes → Bytes → List Bytes
  | [], _ => []
  | byte :: rest, line => if byte = 10 then (line ++ [10]) :: readLines rest [] else readLines rest (line ++ [byte])

def lines (text : Bytes) : List Bytes := readLines text []

/-- The pieces between line feeds; nothing after the last one is no piece. -/
def feedPieces : Bytes → Bytes → List Bytes
  | [], line => if line = [] then [] else [line]
  | byte :: rest, line => if byte = 10 then line :: feedPieces rest [] else feedPieces rest (line ++ [byte])

def dropCR (line : Bytes) : Bytes := if line.getLast? = some 13 then line.dropLast else line

/-- What a `bufio.Scanner` returns: a line that does not fit into its buffer of 64 KB ends the scan. -/
def scanLines (text : Bytes) : List Bytes := ((feedPieces text []).takeWhile (·.length < 65536)).map dropCR

theorem readLines_append {line : Bytes} (absent : 10 ∉ line) (before rest : Bytes) :
    readLines (line ++ 10 :: rest) before = (before ++ line ++ [10]) :: readLines rest [] := by
  induction line generalizing before with
  | nil => rw [List.append_nil]; exact if_pos rfl
  | cons byte line ih =>
    have other : byte ≠ 10 := fun same => absent (by simp [same])
    rw [List.cons_append, readLines, if_neg other, ih fun member => absent (by simp [member])]
    simp

theorem feedPieces_append {line : Bytes} (absent : 10 ∉ line) (before rest : Bytes) :
    feedPieces (line ++ 10 :: rest) before = (before ++ line) :: feedPieces rest [] := by
  induction line generalizing before with
  | nil => rw [List.append_nil]; exact if_pos rfl
  | cons byte line ih =>
    have other : byte ≠ 10 := fun same => absent (by simp [same])
    rw [List.cons_append, feedPieces, if_neg other, ih fun member => absent (by simp [member])]
    simp

theorem feedPieces_length {text before piece : Bytes} (member : piece ∈ feedPieces text before) :
    piece.length ≤ before.length + text.length := by
  induction text generalizing before with
  | nil =>
    unfold feedPieces at member
    split at member
    · cases member
    · rw [List.mem_singleton.mp member]
      exact Nat.le_refl _
  | cons byte rest ih =>
    unfold feedPieces at member
    split at member
    · obtain rfl | later := List.mem_cons.mp member
      · exact Nat.le_add_right _ _
      · have bound := ih later
        simp only [List.length_nil, List.length_cons] at bound ⊢
        omega
    · have bound := ih member
      simp only [List.length_append, List.length_cons, List.length_nil] at bound ⊢
      omega

/-- A text that fits into the scanner's buffer is scanned to its end. -/
theorem scanLines_small {text : Bytes} (small : text.length < 65536) : scanLines text = (feedPieces text []).map dropCR := by
  have all : (feedPieces text []).takeWhile (·.length < 65536) = feedPieces text [] := by
    refine List.takeWhile_eq_self_iff.mpr fun piece member => ?_
    have bound := feedPieces_length member
    simp only [List.length_nil, decide_eq_true_eq] at bound ⊢
    omega
  unfold scanLines
  rw [all]

theorem dropCR_concat (line : Bytes) : dropCR (line ++ [13]) = line := by
  simp [dropCR]

/-! ### Numbers -/

/-- The text behind an optional sign. -/
def unsigned (text : Bytes) : Bytes := if text.head? = some 45 ∨ text.head? = some 43 then text.drop 1 else text

def withSign (text : Bytes) (value : Nat) : Int := if text.head? = some 45 then -value else value

/-- `strconv.Atoi` with the error dropped: out of range is the nearest number, no number is zero. -/
def atoi (text : Bytes) : Int :=
  let digits := unsigned text
  if digits ≠ [] ∧ digits.all Access.isDigit then max (-2 ^ 63) (min (2 ^ 63 - 1) (withSign text (digitsValue digits)))
  else 0

/-- `fmt.Sscanf` with `%d` into an `int`; `none` leaves it as it is. A newline is not skipped like other spaces. -/
def sscanfInt (text : Bytes) : Option Int :=
  let rest := ((pieces text).dropWhile isSpace).flatMap Piece.bytes
  let digits := (unsigned rest).takeWhile Access.isDigit
  let value := withSign rest (digitsValue digits)
  if .ascii 10 ∉ (pieces text).takeWhile isSpace ∧ digits ≠ [] ∧ -2 ^ 63 ≤ value ∧ value ≤ 2 ^ 63 - 1 then some value
  else none

end StbEbpf.GoStrings
