import StbEbpf.Lib.Utf8

/-!
Strings in JSON texts. What stands between the quotes is found first, with its escapes; they are resolved when the
value is needed.
-/

namespace StbEbpf.Json
open CText Utf8

def hexDigit (n : Nat) : UInt8 := if n < 10 then 48 + n.toUInt8 else 87 + n.toUInt8

def hexValue (byte : UInt8) : Option Nat :=
  if within 48 57 byte then some (byte.toNat - 48)
  else if within 97 102 byte then some (byte.toNat - 87)
  else if within 65 70 byte then some (byte.toNat - 55)
  else none

/-! ### Writing -/

/-- Quotes, backslashes and control characters are escaped, and so is what HTML gives a meaning to. -/
def quotedByte (byte : UInt8) : Bytes :=
  if byte = 34 ∨ byte = 92 then [92, byte]
  else if byte = 8 then [92, 98]
  else if byte = 12 then [92, 102]
  else if byte = 10 then [92, 110]
  else if byte = 13 then [92, 114]
  else if byte = 9 then [92, 116]
  else if byte < 32 ∨ byte = 60 ∨ byte = 62 ∨ byte = 38 then
    [92, 117, 48, 48, hexDigit (byte.toNat / 16), hexDigit (byte.toNat % 16)]
  else [byte]

/-- U+2028 and U+2029 end lines in some languages; they are written as their number, as is U+FFFD for a stray byte. -/
def quotedPiece : Piece → Bytes
  | .ascii byte => quotedByte byte
  | .wide bytes =>
    if bytes = [0xE2, 0x80, 0xA8] then [92, 117, 50, 48, 50, 56]
    else if bytes = [0xE2, 0x80, 0xA9] then [92, 117, 50, 48, 50, 57]
    else bytes
  | .stray _ => [92, 117, 102, 102, 102, 100]

/-- What is written between the quotes. -/
def quoted (text : Bytes) : Bytes := (pieces text).flatMap quotedPiece

/-! ### Reading -/

def prepend (start : Bytes) (found : Bytes × Bytes) : Bytes × Bytes := (start ++ found.1, found.2)

def escapes (byte : UInt8) : Bool := byte ∈ ascii "bfnrt\\/\"u"

/-- What stands before the closing quote, and what follows it. -/
def scanString : Bytes → Option (Bytes × Bytes)
  | [] => none
  | c :: rest =>
    if c = 34 then some ([], rest)
    else if c = 92 then
      match rest with
      | [] => none
      | e :: rest =>
        if escapes e ∧ (e = 117 → 4 ≤ (rest.takeWhile fun byte => (hexValue byte).isSome).length) then
          (scanString rest).map (prepend [c, e])
        else none
    else if c < 32 then none
    else (scanString rest).map (prepend [c])

/-- The UTF-8 form of a code point up to U+FFFF that is not a surrogate, or of one past it. -/
def encodeRune (rune : Nat) : Bytes :=
  if rune < 0x80 then [rune.toUInt8]
  else if rune < 0x800 then [(0xC0 + rune / 64).toUInt8, (0x80 + rune % 64).toUInt8]
  else if rune < 0x10000 then
    [(0xE0 + rune / 4096).toUInt8, (0x80 + rune / 64 % 64).toUInt8, (0x80 + rune % 64).toUInt8]
  else
    [(0xF0 + rune / 262144).toUInt8, (0x80 + rune / 4096 % 64).toUInt8, (0x80 + rune / 64 % 64).toUInt8,
     (0x80 + rune % 64).toUInt8]

def unescape (byte : UInt8) : Option UInt8 :=
  if byte = 34 ∨ byte = 92 ∨ byte = 47 ∨ byte = 39 then some byte
  else if byte = 98 then some 8
  else if byte = 102 then some 12
  else if byte = 110 then some 10
  else if byte = 114 then some 13
  else if byte = 116 then some 9
  else none

def hexQuad (a b c d : Piece) : Option Nat :=
  match a, b, c, d with
  | .ascii a, .ascii b, .ascii c, .ascii d => do
    let a ← hexValue a
    let b ← hexValue b
    let c ← hexValue c
    let d ← hexValue d
    pure (((a * 16 + b) * 16 + c) * 16 + d)
  | _, _, _, _ => none

def isSurrogate (rune : Nat) : Bool := 0xD800 ≤ rune ∧ rune < 0xE000

/-- `utf16.DecodeRune` of two escapes, the second of which may not be one. -/
def surrogatePair (first : Nat) (slash letter a b c d : Piece) : Option Nat :=
  if slash = .ascii 92 ∧ letter = .ascii 117 ∧ first < 0xDC00 then
    match hexQuad a b c d with
    | some second => if 0xDC00 ≤ second ∧ second < 0xE000 then
        some (0x10000 + (first - 0xD800) * 1024 + (second - 0xDC00)) else none
    | none => none
  else none

/-- `unquote` of the decoder. Half a surrogate pair is read as the replacement character, as a stray byte is. -/
def unquotePieces : List Piece → Option Bytes
  | [] => some []
  | .stray _ :: rest => (unquotePieces rest).map (replacement ++ ·)
  | .wide bytes :: rest => (unquotePieces rest).map (bytes ++ ·)
  | .ascii byte :: rest =>
    if byte = 92 then
      match rest with
      | .ascii 117 :: a :: b :: c :: d :: rest =>
        match hexQuad a b c d with
        | none => none
        | some rune =>
          if isSurrogate rune then
            match rest with
            | slash :: letter :: a :: b :: c :: d :: later =>
              match surrogatePair rune slash letter a b c d with
              | some whole => (unquotePieces later).map (encodeRune whole ++ ·)
              | none => (unquotePieces (slash :: letter :: a :: b :: c :: d :: later)).map (replacement ++ ·)
            | rest => (unquotePieces rest).map (replacement ++ ·)
          else (unquotePieces rest).map (encodeRune rune ++ ·)
      | .ascii letter :: rest =>
        match unescape letter with
        | some meant => (unquotePieces rest).map (meant :: ·)
        | none => none
      | _ => none
    else if byte = 34 ∨ byte < 32 then none
    else (unquotePieces rest).map (byte :: ·)

def unquote (raw : Bytes) : Option Bytes := unquotePieces (pieces raw)

/-! ### What is read of what was written -/

theorem hexDigit_ascii {n : Nat} (small : n < 16) : hexDigit n < 0x80 := by
  revert n
  decide

theorem hexValue_hexDigit {n : Nat} (small : n < 16) : hexValue (hexDigit n) = some n := by
  revert n
  decide

/-- The branches of `quotedByte`. -/
theorem quotedByte_cases (byte : UInt8) :
    (∃ letter, quotedByte byte = [92, letter] ∧ letter < 0x80 ∧ letter ≠ 117 ∧ escapes letter = true ∧
        unescape letter = some byte) ∨
      (byte < 32 ∨ byte = 60 ∨ byte = 62 ∨ byte = 38) ∧
        quotedByte byte = [92, 117, 48, 48, hexDigit (byte.toNat / 16), hexDigit (byte.toNat % 16)] ∨
      (¬ byte < 32 ∧ byte ≠ 34 ∧ byte ≠ 92) ∧ quotedByte byte = [byte] := by
  unfold quotedByte
  split
  · rename_i short
    rcases short with rfl | rfl
    · exact .inl ⟨34, rfl, by decide, by decide, by decide, by decide⟩
    · exact .inl ⟨92, rfl, by decide, by decide, by decide, by decide⟩
  · rename_i plain
    by_cases control : byte = 8 ∨ byte = 12 ∨ byte = 10 ∨ byte = 13 ∨ byte = 9
    · rcases control with rfl | rfl | rfl | rfl | rfl
      · exact .inl ⟨98, rfl, by decide, by decide, by decide, by decide⟩
      · exact .inl ⟨102, rfl, by decide, by decide, by decide, by decide⟩
      · exact .inl ⟨110, rfl, by decide, by decide, by decide, by decide⟩
      · exact .inl ⟨114, rfl, by decide, by decide, by decide, by decide⟩
      · exact .inl ⟨116, rfl, by decide, by decide, by decide, by decide⟩
    · simp only [not_or] at plain control
      obtain ⟨b, f, n, r, t⟩ := control
      rw [if_neg b, if_neg f, if_neg n, if_neg r, if_neg t]
      split
      · rename_i odd
        exact .inr (.inl ⟨odd, rfl⟩)
      · rename_i usual
        simp only [not_or] at usual
        exact .inr (.inr ⟨⟨usual.1, plain.1, plain.2⟩, rfl⟩)

theorem quotedByte_ascii {byte : UInt8} (low : byte < 0x80) : ∀ b ∈ quotedByte byte, b < 0x80 := by
  have value := byte.toNat_lt
  rcases quotedByte_cases byte with ⟨letter, written, small, -⟩ | ⟨-, written⟩ | ⟨-, written⟩
  · rw [written]
    simp [small]
  · rw [written]
    have high := hexDigit_ascii (n := byte.toNat / 16) (by omega)
    have last := hexDigit_ascii (n := byte.toNat % 16) (by omega)
    simp [high, last]
  · rw [written]
    simpa using low

theorem unquotePieces_escape {a b c d : Piece} {rune : Nat} (quad : hexQuad a b c d = some rune)
    (whole : isSurrogate rune = false) (rest : List Piece) :
    unquotePieces (.ascii 92 :: .ascii 117 :: a :: b :: c :: d :: rest) =
      (unquotePieces rest).map (encodeRune rune ++ ·) := by
  rw [unquotePieces.eq_def]
  simp [quad, whole]

theorem unquotePieces_quotedByte {byte : UInt8} (low : byte < 0x80) (rest : List Piece) :
    unquotePieces ((quotedByte byte).map .ascii ++ rest) = (unquotePieces rest).map (byte :: ·) := by
  have value : byte.toNat < 128 := UInt8.lt_iff_toNat_lt.mp low
  rcases quotedByte_cases byte with ⟨letter, written, -, plain, -, meant⟩ | ⟨-, written⟩ | ⟨⟨usual, quote, slash⟩, written⟩
  · rw [written]
    show unquotePieces (.ascii 92 :: .ascii letter :: rest) = _
    rw [unquotePieces.eq_def]
    dsimp only
    rw [if_pos rfl]
    split
    · rename_i same
      exact absurd (Piece.ascii.inj (List.cons.inj same).1) plain
    · rename_i same
      obtain ⟨head, rfl⟩ := List.cons.inj same
      obtain rfl := Piece.ascii.inj head
      rw [meant]
    · rename_i other
      exact absurd rfl (other letter rest)
  · rw [written]
    have quad : hexQuad (.ascii 48) (.ascii 48) (.ascii (hexDigit (byte.toNat / 16)))
        (.ascii (hexDigit (byte.toNat % 16))) = some byte.toNat := by
      unfold hexQuad
      dsimp only
      rw [hexValue_hexDigit (n := byte.toNat / 16) (by omega), hexValue_hexDigit (n := byte.toNat % 16) (by omega)]
      show some (((0 * 16 + 0) * 16 + byte.toNat / 16) * 16 + byte.toNat % 16) = _
      congr 1
      omega
    have single : encodeRune byte.toNat = [byte] := by
      unfold encodeRune
      rw [if_pos value]
      simp
    have whole : isSurrogate byte.toNat = false := by
      simp only [isSurrogate, decide_eq_false_iff_not]
      omega
    have read := unquotePieces_escape quad whole rest
    rw [single] at read
    exact read
  · rw [written]
    show unquotePieces (.ascii byte :: rest) = _
    rw [unquotePieces.eq_def]
    dsimp only
    rw [if_neg slash, if_neg (by simp [quote, usual])]

theorem unquote_quotedPiece {piece : Piece} (proper : piece.proper) (rest : Bytes) :
    unquotePieces (pieces (quotedPiece piece ++ rest)) = (unquotePieces (pieces rest)).map (piece.coerced ++ ·) := by
  cases piece with
  | ascii byte =>
    rw [quotedPiece, pieces_low (quotedByte_ascii proper), unquotePieces_quotedByte proper]
    rfl
  | stray byte =>
    have quad : hexQuad (.ascii 102) (.ascii 102) (.ascii 102) (.ascii 100) = some 0xFFFD := by decide
    rw [quotedPiece, pieces_low (by simp)]
    exact unquotePieces_escape quad (by decide) _
  | wide bytes =>
    rw [quotedPiece]
    split
    · rename_i here
      have quad : hexQuad (.ascii 50) (.ascii 48) (.ascii 50) (.ascii 56) = some 0x2028 := by decide
      rw [pieces_low (by simp), here]
      exact unquotePieces_escape quad (by decide) _
    · split
      · rename_i here
        have quad : hexQuad (.ascii 50) (.ascii 48) (.ascii 50) (.ascii 57) = some 0x2029 := by decide
        rw [pieces_low (by simp), here]
        exact unquotePieces_escape quad (by decide) _
      · rw [pieces_wide proper, unquotePieces.eq_def]
        rfl

/-- Nothing but stray bytes is lost between writing and reading a string. -/
theorem unquote_quoted (text : Bytes) : unquote (quoted text) = some (coerced text) := by
  have each (list : List Piece) (proper : ∀ piece ∈ list, piece.proper) :
      unquotePieces (pieces (list.flatMap quotedPiece)) = some (list.flatMap Piece.coerced) := by
    induction list with
    | nil => rfl
    | cons piece rest ih =>
      rw [List.flatMap_cons, unquote_quotedPiece (proper piece List.mem_cons_self),
        ih fun p member => proper p (List.mem_cons_of_mem _ member)]
      rfl
  exact each (pieces text) (pieces_proper text)

/-- What may stand between quotes. -/
def Enclosed (raw : Bytes) : Prop := ∀ rest, scanString (raw ++ 34 :: rest) = some (raw, rest)

theorem map_prepend (first second : Bytes) (found : Option (Bytes × Bytes)) :
    (found.map (prepend second)).map (prepend first) = found.map (prepend (first ++ second)) := by
  rw [Option.map_map]
  congr 1
  funext rest
  simp [prepend]

theorem scanString_end (more : Bytes) : scanString (34 :: more) = some ([], more) := by
  rw [scanString.eq_def]
  exact if_pos rfl

theorem scanString_plain {byte : UInt8} (quote : byte ≠ 34) (slash : byte ≠ 92) (control : ¬ byte < 32) (more : Bytes) :
    scanString (byte :: more) = (scanString more).map (prepend [byte]) := by
  rw [scanString.eq_def]
  simp [quote, slash, control]

theorem scanString_escape {letter : UInt8} (known : escapes letter = true) {more : Bytes}
    (digits : letter = 117 → 4 ≤ (more.takeWhile fun byte => (hexValue byte).isSome).length) :
    scanString (92 :: letter :: more) = (scanString more).map (prepend [92, letter]) := by
  rw [scanString.eq_def]
  dsimp only
  rw [if_neg (by decide), if_pos rfl, if_pos ⟨known, digits⟩]

/-- The byte can stand in a string as it is. -/
def Plain (byte : UInt8) : Prop := byte ≠ 34 ∧ byte ≠ 92 ∧ ¬ byte < 32

theorem plain_of_range {byte : UInt8} (low : 48 ≤ byte.toNat) (slash : byte.toNat ≠ 92) : Plain byte := by
  refine ⟨?_, ?_, ?_⟩
  · rintro rfl
    exact absurd low (by decide)
  · rintro rfl
    exact slash rfl
  · rw [UInt8.not_lt, UInt8.le_iff_toNat_le]
    exact Nat.le_trans (by decide) low

theorem plain_of_hex {byte : UInt8} (hex : (hexValue byte).isSome = true) : Plain byte := by
  unfold hexValue at hex
  split at hex
  · rename_i digit
    obtain ⟨low, high⟩ := (within_iff ..).mp digit
    exact plain_of_range low (Nat.ne_of_lt (Nat.lt_of_le_of_lt high (by decide)))
  · split at hex
    · rename_i small
      obtain ⟨low, -⟩ := (within_iff ..).mp small
      exact plain_of_range (Nat.le_trans (by decide) low) (Nat.ne_of_gt (Nat.lt_of_lt_of_le (by decide) low))
    · split at hex
      · rename_i large
        obtain ⟨low, high⟩ := (within_iff ..).mp large
        exact plain_of_range (Nat.le_trans (by decide) low) (Nat.ne_of_lt (Nat.lt_of_le_of_lt high (by decide)))
      · cases hex

theorem plain_of_high {byte : UInt8} (high : ¬ byte < 0x80) : Plain byte := by
  have value : 128 ≤ byte.toNat := UInt8.le_iff_toNat_le.mp (UInt8.not_lt.mp high)
  exact plain_of_range (by omega) (by omega)

theorem scanString_run {run : Bytes} (all : ∀ byte ∈ run, Plain byte) (more : Bytes) :
    scanString (run ++ more) = (scanString more).map (prepend run) := by
  induction run with
  | nil => exact Option.map_id'.symm
  | cons byte run ih =>
    obtain ⟨quote, slash, control⟩ := all byte List.mem_cons_self
    rw [List.cons_append, scanString_plain quote slash control,
      ih fun b member => all b (List.mem_cons_of_mem _ member), map_prepend]
    rfl

theorem unquotePieces_plain {list : List Piece} (plain : ∀ piece ∈ list, ∀ byte ∈ piece.bytes, Plain byte)
    (rest : List Piece) :
    unquotePieces (list ++ rest) = (unquotePieces rest).map (list.flatMap Piece.coerced ++ ·) := by
  induction list with
  | nil => simp
  | cons piece list ih =>
    have later := ih fun other member => plain other (List.mem_cons_of_mem _ member)
    cases piece with
    | ascii byte =>
      obtain ⟨quote, slash, control⟩ := plain _ List.mem_cons_self byte (List.mem_singleton.mpr rfl)
      rw [List.cons_append, unquotePieces.eq_def]
      dsimp only
      rw [if_neg slash, if_neg (not_or.mpr ⟨quote, control⟩), later, Option.map_map]
      rfl
    | wide bytes | stray byte =>
      rw [List.cons_append, unquotePieces, later, Option.map_map]
      simp [Function.comp_def, Piece.coerced, Piece.bytes]

theorem pieces_plain {raw : Bytes} (all : ∀ byte ∈ raw, Plain byte) :
    ∀ piece ∈ pieces raw, ∀ byte ∈ piece.bytes, Plain byte := by
  intro piece member byte inside
  apply all byte
  rw [← pieces_join raw]
  exact List.mem_flatMap.mpr ⟨piece, member, inside⟩

/-- A literal without escapes stands for its bytes, as far as they are UTF-8. -/
theorem unquote_unescaped {raw : Bytes} (all : ∀ byte ∈ raw, Plain byte) : unquote raw = some (coerced raw) := by
  have read := unquotePieces_plain (pieces_plain all) []
  rw [List.append_nil] at read
  rw [unquote, read]
  simp [unquotePieces, coerced]

theorem coerced_ascii {text : Bytes} (all : ∀ byte ∈ text, byte < 0x80) : coerced text = text := by
  have same := pieces_low all []
  rw [List.append_nil, pieces, List.append_nil] at same
  unfold coerced
  rw [same, List.flatMap_map]
  exact List.flatMap_singleton' text

theorem unquote_plain {raw : Bytes} (all : ∀ byte ∈ raw, Plain byte ∧ byte < 0x80) : unquote raw = some raw := by
  rw [unquote_unescaped fun byte member => (all byte member).1, coerced_ascii fun byte member => (all byte member).2]

theorem enclosed_of_plain {raw : Bytes} (all : ∀ byte ∈ raw, Plain byte) : Enclosed raw := by
  intro rest
  rw [scanString_run all, scanString_end]
  exact congrArg (fun r => some (r, rest)) (List.append_nil raw)

theorem scanString_hex {d : Bytes} (four : d.length = 4) (hex : ∀ byte ∈ d, (hexValue byte).isSome)
    (more : Bytes) :
    scanString ([92, 117] ++ d ++ more) = (scanString more).map (prepend ([92, 117] ++ d)) := by
  have enough : 4 ≤ ((d ++ more).takeWhile fun byte => (hexValue byte).isSome).length := by
    rw [List.takeWhile_append_of_pos hex, List.length_append]
    omega
  have plain : ∀ byte ∈ d, Plain byte := fun byte member => plain_of_hex (hex byte member)
  rw [List.append_assoc]
  show scanString (92 :: 117 :: (d ++ more)) = _
  rw [scanString_escape (by decide) fun _ => enough, scanString_run plain, map_prepend]

theorem scanString_quotedByte (byte : UInt8) (more : Bytes) :
    scanString (quotedByte byte ++ more) = (scanString more).map (prepend (quotedByte byte)) := by
  have value := byte.toNat_lt
  rcases quotedByte_cases byte with ⟨letter, written, -, plain, known, -⟩ | ⟨-, written⟩ | ⟨⟨usual, quote, slash⟩, written⟩
  · rw [written]
    exact scanString_escape known fun unicode => absurd unicode plain
  · rw [written]
    refine scanString_hex (d := [48, 48, hexDigit (byte.toNat / 16), hexDigit (byte.toNat % 16)]) rfl ?_ more
    have high := hexValue_hexDigit (n := byte.toNat / 16) (by omega)
    have last := hexValue_hexDigit (n := byte.toNat % 16) (by omega)
    simp [high, last, show hexValue 48 = some 0 by decide]
  · rw [written]
    exact scanString_plain quote slash usual more

theorem scanString_quotedPiece {piece : Piece} (proper : piece.proper) (more : Bytes) :
    scanString (quotedPiece piece ++ more) = (scanString more).map (prepend (quotedPiece piece)) := by
  cases piece with
  | ascii byte => exact scanString_quotedByte byte more
  | stray byte => exact scanString_hex (d := [102, 102, 102, 100]) rfl (by decide +kernel) more
  | wide bytes =>
    rw [quotedPiece]
    split
    · exact scanString_hex (d := [50, 48, 50, 56]) rfl (by decide +kernel) more
    · split
      · exact scanString_hex (d := [50, 48, 50, 57]) rfl (by decide +kernel) more
      · exact scanString_run (fun byte member => plain_of_high (isWide_high proper byte member)) more

theorem quoted_enclosed (text : Bytes) : Enclosed (quoted text) := by
  intro rest
  have each (list : List Piece) (proper : ∀ piece ∈ list, piece.proper) :
      scanString (list.flatMap quotedPiece ++ 34 :: rest) = some (list.flatMap quotedPiece, rest) := by
    induction list with
    | nil => exact scanString_end rest
    | cons piece more ih =>
      rw [List.flatMap_cons, List.append_assoc, scanString_quotedPiece (proper piece List.mem_cons_self),
        ih fun p member => proper p (List.mem_cons_of_mem _ member)]
      rfl
  exact each (pieces text) (pieces_proper text)

end StbEbpf.Json
