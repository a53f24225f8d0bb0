import StbEbpf.Lib.JsonString

/-!
What a read says about the text. A string that is put between quotes as it is and read back unchanged had nothing to
escape, whatever stands behind it.
-/

namespace StbEbpf.Json
open CText Utf8

theorem scanString_spans {text raw rest : Bytes} (scan : scanString text = some (raw, rest)) :
    text = raw ++ 34 :: rest := by
  fun_induction scanString text generalizing raw rest with
  | case1 => cases scan
  | case2 => cases scan; rfl
  | case3 => cases scan
  | case4 _ letter more _ ih =>
    obtain ⟨⟨found, after⟩, here, same⟩ := Option.map_eq_some_iff.mp scan
    cases same
    rw [ih here]
    rfl
  | case5 => cases scan
  | case6 => cases scan
  | case7 byte more _ _ _ ih =>
    obtain ⟨⟨found, after⟩, here, same⟩ := Option.map_eq_some_iff.mp scan
    cases same
    rw [ih here]
    rfl

/-- The bytes that escapes of the backslash are made of. -/
def isMark (byte : UInt8) : Bool := byte = 92 || byte = 117 || (hexValue byte).isSome

theorem mark_low {byte : UInt8} (mark : isMark byte = true) : byte < 0x80 ∧ byte ≠ 34 := by
  revert byte
  decide +kernel

theorem unescape_mark {letter meant : UInt8} (means : unescape letter = some meant) (mark : isMark meant = true) :
    letter = 92 ∧ meant = 92 := by
  have table : ∀ letter, (unescape letter).all (fun meant => !isMark meant || letter = 92 && meant = 92) := by
    decide +kernel
  have row := table letter
  rw [means] at row
  simpa [mark] using row

theorem escapes_meaning {letter : UInt8} (known : escapes letter = true) (short : letter ≠ 117) :
    letter < 0x80 ∧ ∃ meant, unescape letter = some meant := by
  have table : ∀ letter, escapes letter = true → letter ≠ 117 → letter < 0x80 ∧ (unescape letter).isSome := by
    decide +kernel
  obtain ⟨low, means⟩ := table letter known short
  exact ⟨low, Option.isSome_iff_exists.mp means⟩

theorem unquote_escape {letter meant : UInt8} (low : letter < 0x80) (short : letter ≠ 117)
    (means : unescape letter = some meant) (found : Bytes) :
    unquote (92 :: letter :: found) = (unquote found).map (meant :: ·) := by
  unfold unquote
  rw [pieces_ascii (by decide), pieces_ascii low, unquotePieces.eq_def]
  dsimp only
  rw [if_pos rfl]
  split
  · rename_i same
    exact absurd (Piece.ascii.inj (List.cons.inj same).1) short
  · rename_i same
    obtain ⟨head, rfl⟩ := List.cons.inj same
    obtain rfl := Piece.ascii.inj head
    rw [means]
  · rename_i other
    exact absurd rfl (other letter _)

theorem unquote_cons {byte : UInt8} (plain : Plain byte) (low : byte < 0x80) (found : Bytes) :
    unquote (byte :: found) = (unquote found).map (byte :: ·) := by
  obtain ⟨quote, slash, control⟩ := plain
  unfold unquote
  rw [pieces_ascii low, unquotePieces.eq_def]
  dsimp only
  rw [if_neg slash, if_neg (not_or.mpr ⟨quote, control⟩)]

/-- The text starts with a byte that is not ASCII. -/
def StartsHigh (text : Bytes) : Prop := ∃ byte rest, text = byte :: rest ∧ ¬ byte < 0x80

theorem StartsHigh.append {start : Bytes} (high : StartsHigh start) (rest : Bytes) : StartsHigh (start ++ rest) := by
  obtain ⟨byte, more, rfl, high⟩ := high
  exact ⟨byte, more ++ rest, rfl, high⟩

theorem startsHigh_replacement : StartsHigh replacement := ⟨_, _, rfl, by decide⟩

theorem startsHigh_wide {bytes : Bytes} (wide : isWide bytes = true) : StartsHigh bytes := by
  cases bytes with
  | nil => cases wide
  | cons byte rest => exact ⟨byte, rest, rfl, isWide_high wide byte List.mem_cons_self⟩

theorem startsHigh_encodeRune {rune : Nat} (large : 0x80 ≤ rune) (small : rune < 0x110000) :
    StartsHigh (encodeRune rune) := by
  have high {n : Nat} (low : 128 ≤ n) (fits : n < 256) : ¬ n.toUInt8 < 0x80 := by
    rw [UInt8.not_lt, UInt8.le_iff_toNat_le]
    show 128 ≤ n % 256
    omega
  unfold encodeRune
  rw [if_neg (by omega)]
  split
  · exact ⟨_, _, rfl, high (by omega) (by omega)⟩
  · split
    · exact ⟨_, _, rfl, high (by omega) (by omega)⟩
    · exact ⟨_, _, rfl, high (by omega) (by omega)⟩

theorem unquote_high {byte : UInt8} (high : ¬ byte < 0x80) {found out : Bytes}
    (read : unquote (byte :: found) = some out) : StartsHigh out := by
  have join := pieces_join (byte :: found)
  have proper := pieces_proper (byte :: found)
  unfold unquote at read
  rcases split : pieces (byte :: found) with _ | ⟨piece, rest⟩
  · rw [split] at join
    cases join
  · rw [split] at join proper read
    have here := proper piece List.mem_cons_self
    cases piece with
    | ascii other =>
      obtain ⟨rfl, -⟩ := List.cons.inj join
      exact absurd here high
    | wide bytes =>
      rw [unquotePieces] at read
      obtain ⟨later, -, rfl⟩ := Option.map_eq_some_iff.mp read
      exact (startsHigh_wide here).append later
    | stray other =>
      rw [unquotePieces] at read
      obtain ⟨later, -, rfl⟩ := Option.map_eq_some_iff.mp read
      exact startsHigh_replacement.append later

theorem hexValue_lt {byte : UInt8} {n : Nat} (value : hexValue byte = some n) : n < 16 := by
  have table : ∀ byte, (hexValue byte).all (· < 16) := by decide +kernel
  have row := table byte
  rw [value] at row
  simpa using row

theorem surrogatePair_range {first whole : Nat} {slash letter a b c d : Piece} (surrogate : isSurrogate first = true)
    (pair : surrogatePair first slash letter a b c d = some whole) : 0x80 ≤ whole ∧ whole < 0x110000 := by
  simp only [isSurrogate, decide_eq_true_eq] at surrogate
  unfold surrogatePair at pair
  split at pair
  · rename_i start
    split at pair
    · split at pair
      · obtain rfl := Option.some.inj pair
        omega
      · cases pair
    · cases pair
  · cases pair

theorem hexQuad_digits {a b c d : UInt8} (hex : ∀ byte ∈ [a, b, c, d], (hexValue byte).isSome) :
    ∃ rune, hexQuad (.ascii a) (.ascii b) (.ascii c) (.ascii d) = some rune ∧ rune < 65536 := by
  simp only [List.forall_mem_cons] at hex
  obtain ⟨first, second, third, fourth, -⟩ := hex
  obtain ⟨p, first⟩ := Option.isSome_iff_exists.mp first
  obtain ⟨q, second⟩ := Option.isSome_iff_exists.mp second
  obtain ⟨r, third⟩ := Option.isSome_iff_exists.mp third
  obtain ⟨s, fourth⟩ := Option.isSome_iff_exists.mp fourth
  refine ⟨((p * 16 + q) * 16 + r) * 16 + s, by simp [hexQuad, first, second, third, fourth], ?_⟩
  have := hexValue_lt first
  have := hexValue_lt second
  have := hexValue_lt third
  have := hexValue_lt fourth
  omega

/-- A numbered character is one ASCII byte, or starts with a byte that is not. -/
theorem unquote_unicode {a b c d : UInt8} (hex : ∀ byte ∈ [a, b, c, d], (hexValue byte).isSome) {found out : Bytes}
    (read : unquote (92 :: 117 :: a :: b :: c :: d :: found) = some out) :
    StartsHigh out ∨ ∃ byte later, unquote found = some later ∧ out = byte :: later := by
  have low : ∀ byte ∈ [92, 117, a, b, c, d], byte < 0x80 := by
    have digits : ∀ byte, (hexValue byte).isSome → byte < 0x80 := by decide +kernel
    intro byte member
    rcases List.mem_cons.mp member with rfl | member
    · decide
    · rcases List.mem_cons.mp member with rfl | member
      · decide
      · exact digits byte (hex byte member)
  obtain ⟨rune, quad, bound⟩ := hexQuad_digits hex
  unfold unquote at read
  rw [show 92 :: 117 :: a :: b :: c :: d :: found = [92, 117, a, b, c, d] ++ found from rfl, pieces_low low] at read
  cases surrogate : isSurrogate rune with
  | false =>
    replace read : unquotePieces (.ascii 92 :: .ascii 117 :: .ascii a :: .ascii b :: .ascii c :: .ascii d ::
      pieces found) = some out := read
    rw [unquotePieces_escape quad surrogate] at read
    obtain ⟨later, found, rfl⟩ := Option.map_eq_some_iff.mp read
    by_cases single : rune < 0x80
    · refine .inr ⟨rune.toUInt8, later, found, ?_⟩
      rw [encodeRune, if_pos single]
      rfl
    · exact .inl ((startsHigh_encodeRune (by omega) (by omega)).append later)
  | true =>
    simp only [List.map_cons, List.map_nil, List.cons_append, List.nil_append, unquotePieces, quad, surrogate,
      ↓reduceIte] at read
    split at read
    · split at read
      · rename_i whole pair
        obtain ⟨low, high⟩ := surrogatePair_range surrogate pair
        obtain ⟨later, -, rfl⟩ := Option.map_eq_some_iff.mp read
        exact .inl ((startsHigh_encodeRune low high).append later)
      · obtain ⟨later, -, rfl⟩ := Option.map_eq_some_iff.mp read
        exact .inl (startsHigh_replacement.append later)
    · obtain ⟨later, -, rfl⟩ := Option.map_eq_some_iff.mp read
      exact .inl (startsHigh_replacement.append later)

/-- The ways a string goes on. -/
inductive ScanCase (byte : UInt8) (text found after : Bytes) : Prop
  | ends : byte = 34 → found = [] → after = text → ScanCase byte text found after
  | escape (letter : UInt8) (more later : Bytes) : byte = 92 → text = letter :: more → escapes letter = true →
      (letter = 117 → 4 ≤ (more.takeWhile fun byte => (hexValue byte).isSome).length) →
      found = 92 :: letter :: later → scanString more = some (later, after) → ScanCase byte text found after
  | plain (later : Bytes) : Plain byte → found = byte :: later → scanString text = some (later, after) →
      ScanCase byte text found after

theorem scanString_cases {byte : UInt8} {text found after : Bytes}
    (scan : scanString (byte :: text) = some (found, after)) : ScanCase byte text found after := by
  rw [scanString.eq_def] at scan
  dsimp only at scan
  split at scan
  · rename_i quote
    cases scan
    exact .ends quote rfl rfl
  · rename_i quote
    split at scan
    · rename_i slash
      cases text with
      | nil => cases scan
      | cons letter more =>
        dsimp only at scan
        split at scan
        · rename_i known
          obtain ⟨⟨later, after⟩, here, same⟩ := Option.map_eq_some_iff.mp scan
          cases same
          exact .escape letter more later slash rfl known.1 known.2 (by rw [slash]; rfl) here
        · cases scan
    · rename_i slash
      split at scan
      · cases scan
      · rename_i control
        obtain ⟨⟨later, after⟩, here, same⟩ := Option.map_eq_some_iff.mp scan
        cases same
        exact .plain later ⟨quote, slash, control⟩ rfl here

/-- Where a run of bytes is found before one that does not belong to it, it stands before that byte. -/
theorem takeWhile_before {takes : UInt8 → Bool} {byte : UInt8} (other : takes byte = false) {count : Nat}
    {text rest : Bytes} (enough : count ≤ ((text ++ byte :: rest).takeWhile takes).length) :
    ∃ run more, text = run ++ more ∧ run.length = count ∧ ∀ b ∈ run, takes b = true := by
  induction count generalizing text with
  | zero => exact ⟨[], text, rfl, rfl, by simp⟩
  | succ count ih =>
    cases text with
    | nil => simp [other] at enough
    | cons first text =>
      rw [List.cons_append, List.takeWhile_cons] at enough
      split at enough
      · rename_i taken
        obtain ⟨run, more, rfl, length, all⟩ := ih (Nat.le_of_succ_le_succ enough)
        refine ⟨first :: run, more, rfl, by simp [length], ?_⟩
        intro b member
        rcases List.mem_cons.mp member with rfl | member
        · exact taken
        · exact all b member
      · cases enough

/-- What the first character of a string, escaped or not, is read as. -/
inductive UnitCase (text rest after out : Bytes) : Prop
  | nothing : out = [] → UnitCase text rest after out
  | other (first : UInt8) (more : Bytes) : out = first :: more → isMark first = false → UnitCase text rest after out
  | read (first : UInt8) (start more later out' : Bytes) : text = start ++ more →
      start = [first] ∧ first ≠ 92 ∨ 2 ≤ start.length ∧ (∀ byte ∈ start, isMark byte = true) →
      out = first :: out' → unquote later = some out' → scanString (more ++ 34 :: rest) = some (later, after) →
      UnitCase text rest after out

theorem unit_high {text rest after out : Bytes} (high : StartsHigh out) : UnitCase text rest after out := by
  obtain ⟨first, more, rfl, high⟩ := high
  refine .other first more rfl ?_
  by_contra mark
  exact high (mark_low (by simpa using mark)).1

theorem unquote_unit {byte : UInt8} {text rest found after out : Bytes}
    (scan : scanString (byte :: text ++ 34 :: rest) = some (found, after)) (read : unquote found = some out) :
    UnitCase (byte :: text) rest after out := by
  cases scanString_cases scan with
  | ends _ nothing =>
    subst nothing
    cases read
    exact .nothing rfl
  | plain later plain same here =>
    subst same
    by_cases low : byte < 0x80
    · rw [unquote_cons plain low] at read
      obtain ⟨out', next, rfl⟩ := Option.map_eq_some_iff.mp read
      exact .read byte [byte] text later out' rfl (.inl ⟨rfl, plain.2.1⟩) rfl next here
    · exact unit_high (unquote_high low read)
  | escape letter more later slash split known digits same here =>
    subst slash same
    by_cases unicode : letter = 117
    · subst unicode
      cases text with
      | nil => cases split
      | cons _ text =>
        obtain ⟨rfl, rfl⟩ := List.cons.inj split
        obtain ⟨run, behind, rfl, length, hex⟩ := takeWhile_before (by decide +kernel) (digits rfl)
        obtain ⟨a, b, c, d, rfl⟩ := List.length_eq_four.mp length
        replace here : scanString ([a, b, c, d] ++ (behind ++ 34 :: rest)) = some (later, after) := here
        rw [scanString_run fun b member => plain_of_hex (hex b member)] at here
        obtain ⟨⟨found, _⟩, behindScan, same⟩ := Option.map_eq_some_iff.mp here
        cases same
        rcases unquote_unicode hex read with high | ⟨first, out', next, rfl⟩
        · exact unit_high high
        · refine .read first [92, 117, a, b, c, d] behind found out' rfl (.inr ⟨by simp, ?_⟩) rfl next behindScan
          intro byte member
          rcases List.mem_cons.mp member with rfl | member
          · decide
          · rcases List.mem_cons.mp member with rfl | member
            · decide
            · simp [isMark, hex byte member]
    · obtain ⟨low, meant, means⟩ := escapes_meaning known unicode
      rw [unquote_escape low unicode means] at read
      obtain ⟨out', next, rfl⟩ := Option.map_eq_some_iff.mp read
      cases mark : isMark meant with
      | false => exact .other meant out' rfl mark
      | true =>
        obtain ⟨rfl, rfl⟩ := unescape_mark means mark
        cases text with
        | nil => cases split
        | cons _ text =>
          obtain ⟨rfl, rfl⟩ := List.cons.inj split
          exact .read 92 [92, 92] text later out' rfl (.inr ⟨by simp, by decide +kernel⟩) rfl next here

/-- One byte goes off at the front of what is missing, and those of the escape come on at its end. -/
theorem marks_move {marks start more text out : Bytes} {byte first : UInt8} (made : ∀ b ∈ marks, isMark b = true)
    (ahead : marks ≠ [] ∨ byte = 92) (split : byte :: text = start ++ more)
    (kind : start = [first] ∧ first ≠ 92 ∨ 2 ≤ start.length ∧ ∀ b ∈ start, isMark b = true)
    (same : marks ++ start ++ more = first :: out) :
    ∃ missing, marks ++ start = first :: missing ∧ missing ≠ [] ∧ ∀ b ∈ missing, isMark b = true := by
  rcases kind with ⟨rfl, plain⟩ | ⟨long, marked⟩
  · obtain ⟨rfl, -⟩ := List.cons.inj split
    rcases marks with _ | ⟨mark, marks⟩
    · exact absurd (by simpa using ahead) plain
    · obtain ⟨rfl, -⟩ := List.cons.inj same
      refine ⟨marks ++ [mark], rfl, by simp, ?_⟩
      intro b member
      apply made
      simpa [or_comm] using member
  · rcases both : marks ++ start with _ | ⟨head, missing⟩
    · simp [(List.append_eq_nil_iff.mp both).2] at long
    · rw [both] at same
      obtain ⟨rfl, -⟩ := List.cons.inj same
      have lengths := congrArg List.length both
      rw [List.length_append, List.length_cons] at lengths
      refine ⟨missing, rfl, List.length_pos_iff.mp (by omega), ?_⟩
      intro b member
      have among : b ∈ marks ++ start := both ▸ List.mem_cons_of_mem _ member
      exact (List.mem_append.mp among).elim (made b) (marked b)

/-- Reading shortens an escape, so that a text with one lags behind what it is to be equal to. What it is behind by is
made of the bytes of such escapes; among them is neither a quote nor anything else that would let it catch up. -/
theorem unquote_lags {text rest found after marks : Bytes} (made : ∀ byte ∈ marks, isMark byte = true)
    (ahead : marks ≠ [] ∨ text.head? = some 92)
    (scan : scanString (text ++ 34 :: rest) = some (found, after)) : unquote found ≠ some (marks ++ text) := by
  induction length : text.length using Nat.strong_induction_on generalizing text found marks with
  | _ size ih =>
    intro read
    rcases text with _ | ⟨byte, text⟩
    · rw [List.nil_append, scanString_end] at scan
      cases scan
      have nothing : [] = marks ++ [] := Option.some.inj read
      rcases ahead with ahead | ahead
      · exact ahead (by simpa using nothing.symm)
      · cases ahead
    cases unquote_unit scan read with
    | nothing empty => simp at empty
    | other first more same unmarked =>
      rcases marks with _ | ⟨mark, marks⟩
      · obtain ⟨rfl, -⟩ := List.cons.inj same
        obtain rfl : byte = 92 := by simpa using ahead
        exact absurd unmarked (by decide)
      · obtain ⟨rfl, -⟩ := List.cons.inj same
        simp [made mark List.mem_cons_self] at unmarked
    | read first start more later out split kind same next here =>
      rw [split, ← List.append_assoc] at same
      have behind : marks ≠ [] ∨ byte = 92 := by simpa using ahead
      obtain ⟨missing, both, some_, all⟩ := marks_move made behind split kind same
      rw [both] at same
      obtain ⟨-, rfl⟩ := List.cons.inj same
      have shorter : more.length < size := by
        have lengths := congrArg List.length split
        rw [List.length_append] at lengths
        have long : start ≠ [] := by
          rintro rfl
          rcases kind with ⟨start, -⟩ | ⟨long, -⟩
          · cases start
          · simp at long
        have := List.length_pos_iff.mpr long
        omega
      exact ih more.length shorter all (.inl some_) here rfl next

theorem plain_or_first (text : Bytes) :
    (∀ byte ∈ text, Plain byte) ∨ ∃ start byte rest, text = start ++ byte :: rest ∧ (∀ b ∈ start, Plain b) ∧ ¬ Plain byte := by
  induction text with
  | nil => exact .inl (by simp)
  | cons byte text ih =>
    by_cases plain : Plain byte
    · rcases ih with all | ⟨start, other, rest, rfl, all, special⟩
      · refine .inl ?_
        intro b member
        rcases List.mem_cons.mp member with rfl | member
        · exact plain
        · exact all b member
      · refine .inr ⟨byte :: start, other, rest, rfl, ?_, special⟩
        intro b member
        rcases List.mem_cons.mp member with rfl | member
        · exact plain
        · exact all b member
    · exact .inr ⟨[], byte, text, rfl, by simp, plain⟩

/-- A string that is read back as it was put between the quotes has nothing to escape. -/
theorem plain_of_restored {raw rest found after : Bytes} (scan : scanString (raw ++ 34 :: rest) = some (found, after))
    (same : unquote found = some raw) : ∀ byte ∈ raw, Plain byte := by
  rcases plain_or_first raw with all | ⟨start, byte, more, rfl, all, special⟩
  · exact all
  exfalso
  rw [List.append_assoc, scanString_run all] at scan
  obtain ⟨⟨later, behind⟩, tail, both⟩ := Option.map_eq_some_iff.mp scan
  cases both
  cases scanString_cases tail with
  | plain _ plain => exact special plain
  | ends quote nothing =>
    subst quote nothing
    rw [List.append_nil, unquote_unescaped all] at same
    have equal := Option.some.inj same
    rw [← List.append_nil (coerced start)] at equal
    have kept := coerced_start (by decide) equal
    rw [kept] at equal
    simp at equal
  | escape letter text later' slash split known digits both here =>
    subst slash both
    have read : unquote (start ++ 92 :: letter :: later') = (unquote (92 :: letter :: later')).map (coerced start ++ ·) := by
      unfold unquote
      rw [pieces_append_ascii start (by decide), unquotePieces_plain (pieces_plain all),
        ← pieces_ascii (show (92 : UInt8) < 0x80 by decide)]
      rfl
    rw [read] at same
    obtain ⟨out, found, equal⟩ := Option.map_eq_some_iff.mp same
    have kept := coerced_start (by decide) equal
    rw [kept] at equal
    obtain rfl := List.append_cancel_left equal
    have level : ∀ byte ∈ ([] : Bytes), isMark byte = true := by simp
    exact unquote_lags level (.inr rfl) tail found

theorem restored_iff {raw rest : Bytes} :
    (∃ found after, scanString (raw ++ 34 :: rest) = some (found, after) ∧ unquote found = some raw) ↔
      (∀ byte ∈ raw, Plain byte) ∧ valid raw = true := by
  constructor
  · rintro ⟨found, after, scan, same⟩
    have plain := plain_of_restored scan same
    rw [enclosed_of_plain plain rest] at scan
    cases scan
    rw [unquote_unescaped plain] at same
    exact ⟨plain, (coerced_eq_iff raw).mp (Option.some.inj same)⟩
  · rintro ⟨plain, whole⟩
    refine ⟨raw, rest, enclosed_of_plain plain rest, ?_⟩
    rw [unquote_unescaped plain, (coerced_eq_iff raw).mpr whole]

/-- A string that is found between its quotes once is found there whatever follows. -/
theorem enclosed_of_scan {raw rest : Bytes} (scan : scanString (raw ++ 34 :: rest) = some (raw, rest)) : Enclosed raw := by
  intro other
  induction length : raw.length using Nat.strong_induction_on generalizing raw with
  | _ size ih =>
    cases raw with
    | nil => exact scanString_end other
    | cons byte raw =>
      cases scanString_cases scan with
      | ends _ nothing => cases nothing
      | plain later plain same here =>
        obtain ⟨-, rfl⟩ := List.cons.inj same
        rw [List.cons_append, scanString_plain plain.1 plain.2.1 plain.2.2, ih raw.length (by simp [← length]) here rfl]
        rfl
      | escape letter more later slash split known digits same here =>
        obtain ⟨rfl, rfl⟩ := List.cons.inj same
        obtain ⟨-, rfl⟩ := List.cons.inj split
        have hexed (unicode : letter = 117) :
            4 ≤ ((later ++ 34 :: other).takeWhile fun byte => (hexValue byte).isSome).length := by
          obtain ⟨run, behind, rfl, four, hex⟩ := takeWhile_before (by decide +kernel) (digits unicode)
          rw [List.append_assoc, List.takeWhile_append_of_pos hex, List.length_append, four]
          exact Nat.le_add_right _ _
        rw [List.cons_append, List.cons_append, scanString_escape known hexed,
          ih later.length (by simp [← length]) here rfl]
        rfl

end StbEbpf.Json
