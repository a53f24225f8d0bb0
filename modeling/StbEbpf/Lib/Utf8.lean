import StbEbpf.Lib.CText

/-!
Byte sequences as UTF-8: the runes in them and the bytes that belong to no rune. A decoder that must not fail puts
the replacement character in the place of each such byte.
-/

namespace StbEbpf.Utf8
open CText

def within (low high byte : UInt8) : Bool := low ≤ byte && byte ≤ high

def continues (byte : UInt8) : Bool := within 0x80 0xBF byte

/-- The second byte of a three byte rune: neither overlong nor a surrogate. -/
def secondOfThree (first second : UInt8) : Bool :=
  if first = 0xE0 then within 0xA0 0xBF second
  else if first = 0xED then within 0x80 0x9F second
  else within 0xE1 0xEF first && continues second

/-- The second byte of a four byte rune: neither overlong nor past the last code point. -/
def secondOfFour (first second : UInt8) : Bool :=
  if first = 0xF0 then within 0x90 0xBF second
  else if first = 0xF4 then within 0x80 0x8F second
  else within 0xF1 0xF3 first && continues second

/-- The runes of more than one byte. -/
def isWide : Bytes → Bool
  | [a, b] => within 0xC2 0xDF a && continues b
  | [a, b, c] => secondOfThree a b && continues c
  | [a, b, c, d] => secondOfFour a b && continues c && continues d
  | _ => false

inductive Piece where
  | ascii (byte : UInt8)
  | wide (bytes : Bytes)
  | stray (byte : UInt8)
  deriving DecidableEq, Repr

def Piece.bytes : Piece → Bytes
  | .ascii byte | .stray byte => [byte]
  | .wide bytes => bytes

def Piece.isStray : Piece → Bool
  | .stray _ => true
  | .ascii _ | .wide _ => false

def pieces : Bytes → List Piece
  | [] => []
  | a :: rest =>
    if a < 0x80 then .ascii a :: pieces rest
    else
      match rest with
      | [] => [.stray a]
      | b :: rest =>
        if isWide [a, b] then .wide [a, b] :: pieces rest
        else
          match rest with
          | [] => .stray a :: pieces [b]
          | c :: rest =>
            if isWide [a, b, c] then .wide [a, b, c] :: pieces rest
            else
              match rest with
              | [] => .stray a :: pieces [b, c]
              | d :: rest =>
                if isWide [a, b, c, d] then .wide [a, b, c, d] :: pieces rest
                else .stray a :: pieces (b :: c :: d :: rest)

def valid (text : Bytes) : Bool := (pieces text).all (! ·.isStray)

def replacement : Bytes := [0xEF, 0xBF, 0xBD]

def Piece.coerced : Piece → Bytes
  | .stray _ => replacement
  | piece => piece.bytes

/-- The text with the replacement character for each byte that belongs to no rune. -/
def coerced (text : Bytes) : Bytes := (pieces text).flatMap Piece.coerced

theorem within_iff (low high byte : UInt8) :
    within low high byte = true ↔ low.toNat ≤ byte.toNat ∧ byte.toNat ≤ high.toNat := by
  simp [within, UInt8.le_iff_toNat_le]

/-- How many bytes a rune with this first byte has. -/
def lead (first : UInt8) : Nat := if first < 0xE0 then 2 else if first < 0xF0 then 3 else 4

theorem continues_high {byte : UInt8} (inside : continues byte = true) : 128 ≤ byte.toNat := ((within_iff ..).mp inside).1

theorem secondOfThree_range {first second : UInt8} (fits : secondOfThree first second = true) :
    224 ≤ first.toNat ∧ first.toNat < 240 ∧ 128 ≤ second.toNat := by
  unfold secondOfThree at fits
  split at fits
  · rename_i here
    have low := ((within_iff ..).mp fits).1
    rw [here]
    exact ⟨by decide, by decide, Nat.le_trans (by decide) low⟩
  · split at fits
    · rename_i here
      have low := ((within_iff ..).mp fits).1
      rw [here]
      exact ⟨by decide, by decide, low⟩
    · rw [Bool.and_eq_true, within_iff] at fits
      exact ⟨Nat.le_trans (by decide) fits.1.1, Nat.lt_of_le_of_lt fits.1.2 (by decide), continues_high fits.2⟩

theorem secondOfFour_range {first second : UInt8} (fits : secondOfFour first second = true) :
    240 ≤ first.toNat ∧ 128 ≤ second.toNat := by
  unfold secondOfFour at fits
  split at fits
  · rename_i here
    have low := ((within_iff ..).mp fits).1
    rw [here]
    exact ⟨by decide, Nat.le_trans (by decide) low⟩
  · split at fits
    · rename_i here
      have low := ((within_iff ..).mp fits).1
      rw [here]
      exact ⟨by decide, low⟩
    · rw [Bool.and_eq_true, within_iff] at fits
      exact ⟨Nat.le_trans (by decide) fits.1.1, continues_high fits.2⟩

/-- The first byte tells the length, and no byte of a wide rune is ASCII. -/
theorem isWide_lead {first : UInt8} {rest : Bytes} (wide : isWide (first :: rest) = true) :
    lead first = rest.length + 1 ∧ ∀ byte ∈ first :: rest, ¬ byte < 0x80 := by
  have ascii (byte : UInt8) : ¬ byte < 0x80 ↔ 128 ≤ byte.toNat := by
    rw [UInt8.not_lt, UInt8.le_iff_toNat_le]
    rfl
  have limits : lead first = if first.toNat < 224 then 2 else if first.toNat < 240 then 3 else 4 := by
    simp only [lead, UInt8.lt_iff_toNat_lt]
    rfl
  rw [limits]
  unfold isWide at wide
  split at wide
  · rename_i a b same
    obtain ⟨rfl, rfl⟩ := List.cons.inj same
    rw [Bool.and_eq_true, within_iff] at wide
    obtain ⟨⟨low, high⟩, second⟩ := wide
    replace low : 194 ≤ first.toNat := low
    replace high : first.toNat ≤ 223 := high
    have := continues_high second
    refine ⟨by rw [if_pos (by omega)]; rfl, ?_⟩
    simp only [ascii, List.mem_cons, List.not_mem_nil, or_false, forall_eq_or_imp, forall_eq]
    omega
  · rename_i a b c same
    obtain ⟨rfl, rfl⟩ := List.cons.inj same
    rw [Bool.and_eq_true] at wide
    have third := continues_high wide.2
    obtain ⟨low, high, second⟩ := secondOfThree_range wide.1
    refine ⟨by rw [if_neg (by omega), if_pos high]; rfl, ?_⟩
    simp only [ascii, List.mem_cons, List.not_mem_nil, or_false, forall_eq_or_imp, forall_eq]
    omega
  · rename_i a b c d same
    obtain ⟨rfl, rfl⟩ := List.cons.inj same
    rw [Bool.and_eq_true, Bool.and_eq_true] at wide
    have third := continues_high wide.1.2
    have fourth := continues_high wide.2
    obtain ⟨low, second⟩ := secondOfFour_range wide.1.1
    refine ⟨by rw [if_neg (by omega), if_neg (by omega)]; rfl, ?_⟩
    simp only [ascii, List.mem_cons, List.not_mem_nil, or_false, forall_eq_or_imp, forall_eq]
    omega
  · cases wide

theorem isWide_high {w : Bytes} (wide : isWide w = true) : ∀ byte ∈ w, ¬ byte < 0x80 := by
  cases w with
  | nil => cases wide
  | cons first rest => exact (isWide_lead wide).2

theorem pieces_ascii {a : UInt8} (low : a < 0x80) (rest : Bytes) : pieces (a :: rest) = .ascii a :: pieces rest := by
  rw [pieces.eq_def]
  exact if_pos low

theorem pieces_wide {w : Bytes} (wide : isWide w = true) (rest : Bytes) :
    pieces (w ++ rest) = .wide w :: pieces rest := by
  match w, wide with
  | [a, b], wide =>
    obtain ⟨-, high⟩ := isWide_lead wide
    rw [List.cons_append, pieces.eq_def]
    simp [high, wide]
  | [a, b, c], wide =>
    obtain ⟨three, high⟩ := isWide_lead wide
    have notTwo : ¬ isWide [a, b] = true := fun two => by
      have := (isWide_lead two).1
      simp_all
    rw [List.cons_append, pieces.eq_def]
    simp [high, wide, notTwo]
  | [a, b, c, d], wide =>
    obtain ⟨four, high⟩ := isWide_lead wide
    have notTwo : ¬ isWide [a, b] = true := fun two => by
      have := (isWide_lead two).1
      simp_all
    have notThree : ¬ isWide [a, b, c] = true := fun three => by
      have := (isWide_lead three).1
      simp_all
    rw [List.cons_append, pieces.eq_def]
    simp [high, wide, notTwo, notThree]

/-- The pieces are what they say they are. -/
def Piece.proper : Piece → Prop
  | .ascii byte => byte < 0x80
  | .wide bytes => isWide bytes = true
  | .stray _ => True

theorem pieces_proper (text : Bytes) : ∀ piece ∈ pieces text, piece.proper := by
  fun_induction pieces text <;> simp_all [Piece.proper]

theorem pieces_join (text : Bytes) : (pieces text).flatMap Piece.bytes = text := by
  fun_induction pieces text <;> simp_all [Piece.bytes]

/-- Each stray byte makes the text two bytes longer. -/
theorem length_coerced (list : List Piece) :
    (list.flatMap Piece.coerced).length = (list.flatMap Piece.bytes).length + 2 * (list.filter Piece.isStray).length := by
  induction list with
  | nil => rfl
  | cons piece rest ih =>
    rw [List.flatMap_cons, List.flatMap_cons, List.length_append, List.length_append, ih]
    cases piece with
    | stray byte =>
      rw [List.filter_cons_of_pos rfl, List.length_cons, show (Piece.stray byte).coerced.length = 3 from rfl,
        show (Piece.stray byte).bytes.length = 1 from rfl]
      omega
    | ascii byte =>
      rw [List.filter_cons_of_neg (by simp [Piece.isStray]), Nat.add_assoc]
      rfl
    | wide bytes =>
      rw [List.filter_cons_of_neg (by simp [Piece.isStray]), Nat.add_assoc]
      rfl

/-- Nothing is put in the place of anything exactly if every byte belongs to a rune. -/
theorem coerced_eq_iff (text : Bytes) : coerced text = text ↔ valid text = true := by
  have length : (coerced text).length = text.length + 2 * ((pieces text).filter Piece.isStray).length := by
    have counted := length_coerced (pieces text)
    rwa [pieces_join] at counted
  unfold valid
  rw [List.all_eq_true]
  constructor
  · intro same piece member
    rw [same] at length
    have none_ : (pieces text).filter Piece.isStray = [] := List.length_eq_zero_iff.mp (by omega)
    simpa using List.filter_eq_nil_iff.mp none_ piece member
  · intro whole
    conv => rhs; rw [← pieces_join text]
    refine List.flatMap_congr fun piece member => ?_
    cases piece with
    | stray byte => cases whole _ member
    | ascii byte => rfl
    | wide bytes => rfl

/-! ### ASCII behind or before other text -/

/-- No rune of more than one byte stands at the start. -/
def NoWide (text : Bytes) : Prop := ∀ w, w <+: text → isWide w = false

theorem pieces_stray {a : UInt8} {rest : Bytes} (high : ¬ a < 0x80) (none_ : NoWide (a :: rest)) :
    pieces (a :: rest) = .stray a :: pieces rest := by
  rw [pieces.eq_def]
  dsimp only
  rw [if_neg high]
  match rest, none_ with
  | [], _ => rfl
  | [b], none_ => simp [none_ [a, b] ⟨[], rfl⟩]
  | [b, c], none_ => simp [none_ [a, b] ⟨[c], rfl⟩, none_ [a, b, c] ⟨[], rfl⟩]
  | b :: c :: d :: rest, none_ =>
    simp [none_ [a, b] ⟨c :: d :: rest, rfl⟩, none_ [a, b, c] ⟨d :: rest, rfl⟩, none_ [a, b, c, d] ⟨rest, rfl⟩]

theorem noWide_append {text : Bytes} {byte : UInt8} (none_ : NoWide text) (low : byte < 0x80) (rest : Bytes) :
    NoWide (text ++ byte :: rest) := by
  intro w initial
  rcases List.prefix_or_prefix_of_prefix initial (List.prefix_append text (byte :: rest)) with short | ⟨more, rfl⟩
  · exact none_ w short
  · have inside := (List.prefix_append_right_inj text).mp initial
    cases more with
    | nil => exact none_ _ (by rw [List.append_nil])
    | cons first more =>
      obtain ⟨same, -⟩ := List.cons_prefix_cons.mp inside
      by_contra wide
      exact isWide_high (by simpa using wide) first (by simp) (same ▸ low)

theorem pieces_low {low : Bytes} (ascii : ∀ byte ∈ low, byte < 0x80) (rest : Bytes) :
    pieces (low ++ rest) = low.map .ascii ++ pieces rest := by
  induction low with
  | nil => rfl
  | cons byte low ih =>
    rw [List.cons_append, pieces_ascii (ascii byte (by simp)), ih fun b member => ascii b (by simp [member])]
    rfl

/-- An ASCII byte ends whatever stands before it. -/
theorem pieces_append_ascii (text : Bytes) {byte : UInt8} (low : byte < 0x80) (rest : Bytes) :
    pieces (text ++ byte :: rest) = pieces text ++ .ascii byte :: pieces rest := by
  induction length : text.length using Nat.strong_induction_on generalizing text with
  | _ size ih =>
    cases text with
    | nil => exact pieces_ascii low rest
    | cons a more =>
      by_cases small : a < 0x80
      · rw [List.cons_append, pieces_ascii small, pieces_ascii small, ih more.length (by simp [← length]) more rfl]
        rfl
      · by_cases wide : ∃ w, w <+: a :: more ∧ isWide w = true
        · obtain ⟨w, ⟨later, same⟩, wide⟩ := wide
          have some_ : 0 < w.length := by
            cases w with
            | nil => cases wide
            | cons => simp
          have shorter : later.length < size := by
            rw [← length, ← same, List.length_append]
            omega
          rw [← same, List.append_assoc, pieces_wide wide, pieces_wide wide, ih later.length shorter later rfl]
          rfl
        · have none_ : NoWide (a :: more) := by
            intro w initial
            by_contra high
            exact wide ⟨w, initial, by simpa using high⟩
          have longer := noWide_append none_ low rest
          rw [List.cons_append] at longer ⊢
          rw [pieces_stray small none_, pieces_stray small longer, ih more.length (by simp [← length]) more rfl]
          rfl

theorem pieces_append_low (text : Bytes) {low : Bytes} (ascii : ∀ byte ∈ low, byte < 0x80) :
    pieces (text ++ low) = pieces text ++ low.map .ascii := by
  cases low with
  | nil => simp
  | cons byte low =>
    have later := pieces_low (fun b member => ascii b (List.mem_cons_of_mem _ member)) []
    rw [List.append_nil, pieces, List.append_nil] at later
    rw [pieces_append_ascii text (ascii byte List.mem_cons_self), later]
    rfl

/-! ### A text that is cut -/

theorem isWide_continues {first : UInt8} {rest : Bytes} (wide : isWide (first :: rest) = true) :
    continues first = false ∧ ∀ byte ∈ rest, continues byte = true := by
  have inner {low high byte : UInt8} (inside : within low high byte = true) (above : 128 ≤ low.toNat)
      (below : high.toNat ≤ 191) : continues byte = true := by
    rw [within_iff] at inside
    exact (within_iff ..).mpr ⟨above.trans inside.1, inside.2.trans below⟩
  have outer (high : 192 ≤ first.toNat) : continues first = false := by
    rw [Bool.eq_false_iff]
    intro inside
    have bound : first.toNat ≤ 191 := ((within_iff ..).mp inside).2
    omega
  unfold isWide at wide
  split at wide
  · rename_i a b same
    obtain ⟨rfl, rfl⟩ := List.cons.inj same
    rw [Bool.and_eq_true, within_iff] at wide
    exact ⟨outer (Nat.le_trans (by decide) wide.1.1), by simp [wide.2]⟩
  · rename_i a b c same
    obtain ⟨rfl, rfl⟩ := List.cons.inj same
    rw [Bool.and_eq_true] at wide
    have range := secondOfThree_range wide.1
    have second : continues b = true := by
      have fits := wide.1
      unfold secondOfThree at fits
      split at fits
      · exact inner fits (by decide) (by decide)
      · split at fits
        · exact inner fits (by decide) (by decide)
        · exact (Bool.and_eq_true_iff.mp fits).2
    exact ⟨outer (by omega), by simp [second, wide.2]⟩
  · rename_i a b c d same
    obtain ⟨rfl, rfl⟩ := List.cons.inj same
    rw [Bool.and_eq_true, Bool.and_eq_true] at wide
    have range := secondOfFour_range wide.1.1
    have second : continues b = true := by
      have fits := wide.1.1
      unfold secondOfFour at fits
      split at fits
      · exact inner fits (by decide) (by decide)
      · split at fits
        · exact inner fits (by decide) (by decide)
        · exact (Bool.and_eq_true_iff.mp fits).2
    exact ⟨outer (by omega), by simp [second, wide.1.2, wide.2]⟩
  · cases wide

theorem pieces_continuations {text : Bytes} (all : ∀ byte ∈ text, continues byte = true) :
    pieces text = text.map .stray := by
  induction text with
  | nil => rfl
  | cons byte rest ih =>
    have here := all byte List.mem_cons_self
    have high : ¬ byte < 0x80 := by
      rw [UInt8.not_lt, UInt8.le_iff_toNat_le]
      exact continues_high here
    have none_ : NoWide (byte :: rest) := by
      intro w initial
      rw [Bool.eq_false_iff]
      intro wide
      cases w with
      | nil => cases wide
      | cons first later =>
        obtain ⟨rfl, -⟩ := List.cons_prefix_cons.mp initial
        rw [(isWide_continues wide).1] at here
        cases here
    rw [pieces_stray high none_, ih fun other member => all other (List.mem_cons_of_mem _ member)]
    rfl

/-- A rune that is cut off leaves stray bytes only. -/
theorem pieces_cut_rune {w : Bytes} (wide : isWide w = true) {k : Nat} (short : k < w.length) :
    pieces (w.take k) = (w.take k).map .stray := by
  cases w with
  | nil => cases wide
  | cons first rest =>
    cases k with
    | zero => rfl
    | succ k =>
      obtain ⟨size, high⟩ := isWide_lead wide
      have none_ : NoWide (first :: rest.take k) := by
        intro v initial
        rw [Bool.eq_false_iff]
        intro other
        cases v with
        | nil => cases other
        | cons head later =>
          obtain ⟨rfl, more⟩ := List.cons_prefix_cons.mp initial
          have bound := more.length_le
          have again := (isWide_lead other).1
          rw [List.length_take] at bound
          rw [List.length_cons] at short
          omega
      have tail : ∀ byte ∈ rest.take k, continues byte = true := fun byte member =>
        (isWide_continues wide).2 byte (List.mem_of_mem_take member)
      rw [List.take_succ_cons, pieces_stray (high first List.mem_cons_self) none_, pieces_continuations tail]
      rfl

/-- Cutting a text cuts its pieces, and of a rune across the cut stray bytes are left. -/
theorem pieces_take (text : Bytes) (n : Nat) :
    ∃ (whole : List Piece) (rest : Bytes), pieces (text.take n) = whole ++ rest.map .stray ∧ whole <+: pieces text := by
  induction length : text.length using Nat.strong_induction_on generalizing text n with
  | _ size ih =>
    cases n with
    | zero => exact ⟨[], [], rfl, List.nil_prefix⟩
    | succ n =>
      cases text with
      | nil => exact ⟨[], [], rfl, List.nil_prefix⟩
      | cons a more =>
        have further := ih more.length (by simp [← length]) more n rfl
        by_cases small : a < 0x80
        · obtain ⟨whole, rest, cut, initial⟩ := further
          refine ⟨.ascii a :: whole, rest, ?_, ?_⟩
          · rw [List.take_succ_cons, pieces_ascii small, cut]
            rfl
          · rw [pieces_ascii small]
            exact List.cons_prefix_cons.mpr ⟨rfl, initial⟩
        · by_cases wide : ∃ w, w <+: a :: more ∧ isWide w = true
          · obtain ⟨w, ⟨later, same⟩, wide⟩ := wide
            rw [← same]
            by_cases inside : n + 1 < w.length
            · refine ⟨[], w.take (n + 1), ?_, List.nil_prefix⟩
              rw [List.take_append_of_le_length (Nat.le_of_lt inside)]
              exact pieces_cut_rune wide inside
            · have some_ : 0 < w.length := by
                cases w with
                | nil => cases wide
                | cons => simp
              have shorter : later.length < size := by
                rw [← length, ← same, List.length_append]
                omega
              obtain ⟨whole, rest, cut, initial⟩ := ih later.length shorter later (n + 1 - w.length) rfl
              refine ⟨.wide w :: whole, rest, ?_, ?_⟩
              · rw [List.take_append, List.take_of_length_le (by omega), pieces_wide wide, cut]
                rfl
              · rw [pieces_wide wide]
                exact List.cons_prefix_cons.mpr ⟨rfl, initial⟩
          · have none_ : NoWide (a :: more) := by
              intro w initial
              by_contra high
              exact wide ⟨w, initial, by simpa using high⟩
            have shorter : NoWide (a :: more.take n) := by
              intro w initial
              exact none_ w (initial.trans (List.take_prefix (n + 1) (a :: more)))
            obtain ⟨whole, rest, cut, initial⟩ := further
            refine ⟨.stray a :: whole, rest, ?_, ?_⟩
            · rw [List.take_succ_cons, pieces_stray small shorter, cut]
              rfl
            · rw [pieces_stray small none_]
              exact List.cons_prefix_cons.mpr ⟨rfl, initial⟩

/-! ### Runes that stand for stray bytes -/

def Piece.mended : Piece → Piece
  | .stray _ => .wide replacement
  | piece => piece

theorem pieces_coerced {list : List Piece} (proper : ∀ piece ∈ list, piece.proper) (rest : Bytes) :
    pieces (list.flatMap Piece.coerced ++ rest) = list.map Piece.mended ++ pieces rest := by
  induction list with
  | nil => rfl
  | cons piece list ih =>
    have later := ih fun other member => proper other (List.mem_cons_of_mem _ member)
    have here := proper piece List.mem_cons_self
    rw [List.flatMap_cons, List.append_assoc, List.map_cons, List.cons_append, ← later]
    cases piece with
    | ascii byte => exact pieces_ascii here _
    | wide bytes => exact pieces_wide here _
    | stray byte => exact pieces_wide (w := replacement) (by decide) _

/-- Where a text before an ASCII byte is found again after replacing its stray bytes, it had none. -/
theorem coerced_start {text rest found : Bytes} {byte : UInt8} (low : byte < 0x80)
    (same : coerced text ++ found = text ++ byte :: rest) : coerced text = text := by
  have split := congrArg pieces same
  rw [coerced, pieces_coerced (pieces_proper text), pieces_append_ascii text low] at split
  obtain ⟨mended, -⟩ := List.append_inj split (by simp)
  rw [coerced_eq_iff, valid, List.all_eq_true]
  intro piece member
  have kept : piece.mended = piece := List.map_inj_left.mp (mended.trans (List.map_id _).symm) piece member
  cases piece with
  | stray byte => cases kept
  | ascii | wide => rfl

end StbEbpf.Utf8
