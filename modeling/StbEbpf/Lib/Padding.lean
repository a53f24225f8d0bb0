import StbEbpf.Lib.CText

/-! Texts in arrays that are filled up with zeros, and the two ways of getting rid of the zeros again. -/

namespace StbEbpf.CText

/-- An array that holds the text and zeros behind it. -/
def padTo (size : Nat) (text : Bytes) : Vector UInt8 size :=
  ⟨(text.take size ++ List.replicate (size - text.length) 0).toArray, by
    rw [List.size_toArray, List.length_append, List.length_take, List.length_replicate]
    omega⟩

/-- The text without the zeros behind it. -/
def unpadded (text : Bytes) : Bytes := text.rdropWhile (· == 0)

/-- The text without the zeros on either side. -/
def trimNul (text : Bytes) : Bytes := unpadded (text.dropWhile (· == 0))

theorem padTo_toList {size : Nat} {text : Bytes} (fits : text.length ≤ size) :
    (padTo size text).toList = text ++ List.replicate (size - text.length) 0 := by
  show text.take size ++ _ = _
  rw [List.take_of_length_le fits]

theorem unpadded_zeros (text : Bytes) (count : Nat) : unpadded (text ++ List.replicate count 0) = unpadded text := by
  induction count with
  | zero => rw [List.replicate_zero, List.append_nil]
  | succ count ih =>
    rw [List.replicate_succ', ← List.append_assoc]
    exact (List.rdropWhile_concat_pos _ _ _ rfl).trans ih

theorem unpadded_of_noNul {text : Bytes} (noNul : 0 ∉ text) : unpadded text = text := by
  apply List.rdropWhile_eq_self_iff.mpr
  intro some_ zero
  exact noNul (eq_of_beq zero ▸ List.getLast_mem some_)

theorem unpadded_start (text : Bytes) : unpadded text <+: text := List.rdropWhile_prefix _ _

/-- What was dropped at the end put back. -/
theorem rdropWhile_restore (last : UInt8) (text : Bytes) :
    text.rdropWhile (· == last) ++ List.replicate (text.length - (text.rdropWhile (· == last)).length) last = text := by
  have all : ∀ byte ∈ text.rtakeWhile (· == last), byte = last := by
    intro byte member
    have same := List.mem_rtakeWhile_imp member
    exact eq_of_beq same
  have whole : text.rdropWhile (· == last) ++ text.rtakeWhile (· == last) = text := List.rdropWhile_append_rtakeWhile
  have length := congrArg List.length whole
  rw [List.length_append] at length
  conv => rhs; rw [← whole]
  rw [List.eq_replicate_of_mem all]
  congr 2
  omega

theorem unpadded_restore (text : Bytes) :
    unpadded text ++ List.replicate (text.length - (unpadded text).length) 0 = text :=
  rdropWhile_restore 0 text

theorem unpadded_inj {left right : Bytes} (length : left.length = right.length) :
    unpadded left = unpadded right ↔ left = right := by
  refine ⟨fun same => ?_, congrArg unpadded⟩
  rw [← unpadded_restore left, ← unpadded_restore right, same, length]

/-- Behind the first zero of a padded string there are only zeros. -/
theorem padded_zero {text : Bytes} (noNul : 0 ∉ text) {count i j : Nat} {byte : UInt8} (later : i ≤ j)
    (zero : (text ++ List.replicate count 0)[i]? = some 0) (read : (text ++ List.replicate count 0)[j]? = some byte) :
    byte = 0 := by
  have behind : text.length ≤ i := by
    by_contra inside
    rw [List.getElem?_append_left (by omega)] at zero
    exact noNul (List.mem_of_getElem? zero)
  rw [List.getElem?_append_right (by omega)] at read
  exact List.eq_of_mem_replicate (List.mem_of_getElem? read)

/-! ### Trimmed on both sides -/

theorem trimNul_visible {first : UInt8} (visible : first ≠ 0) (rest : Bytes) :
    trimNul (first :: rest) = unpadded (first :: rest) := by
  unfold trimNul
  rw [List.dropWhile_cons_of_neg (by simpa using visible)]

theorem trimNul_zeros (count : Nat) (rest : Bytes) : trimNul (List.replicate count 0 ++ rest) = trimNul rest := by
  unfold trimNul
  rw [List.dropWhile_append_of_pos (by simp)]

theorem trimNul_unpadded (text : Bytes) : unpadded (trimNul text) = trimNul text := List.rdropWhile_idempotent _ _

theorem trimNul_head (text : Bytes) : (trimNul text).head? ≠ some 0 := by
  intro zero
  have kept : (text.dropWhile (· == 0)).head? = some 0 := by
    obtain ⟨rest, restored⟩ := unpadded_start (text.dropWhile (· == 0))
    rw [← restored, List.head?_append]
    unfold trimNul at zero
    rw [zero]
    rfl
  have dropped := List.head?_dropWhile_not (· == (0 : UInt8)) text
  rw [kept] at dropped
  cases dropped

theorem trimNul_length_le (text : Bytes) : (trimNul text).length ≤ text.length :=
  (unpadded_start _).length_le.trans (List.dropWhile_suffix _).length_le

/-- Cutting off the end of an array and trimming both sides keeps a text that is short enough and starts visibly. -/
theorem trimNul_take_iff (text : Bytes) (count : Nat) :
    trimNul (text.take count) = unpadded text ↔
      (unpadded text).length ≤ count ∧ (unpadded text).head? ≠ some 0 := by
  constructor
  · intro same
    rw [← same]
    refine ⟨(trimNul_length_le _).trans ?_, trimNul_head _⟩
    rw [List.length_take]
    exact Nat.min_le_left _ _
  · rintro ⟨short, visible⟩
    have restored := unpadded_restore text
    have cut : text.take count = unpadded text ++
        List.replicate (min (count - (unpadded text).length) (text.length - (unpadded text).length)) 0 := by
      conv => lhs; rw [← restored]
      rw [List.take_append, List.take_of_length_le short, List.take_replicate]
    have idempotent : unpadded (unpadded text) = unpadded text := List.rdropWhile_idempotent _ _
    rw [cut]
    rcases kept : unpadded text with _ | ⟨first, rest⟩
    · rw [List.nil_append, ← List.append_nil (List.replicate _ _), trimNul_zeros]
      rfl
    · rw [kept] at visible idempotent
      rw [List.cons_append, trimNul_visible (fun zero => visible (congrArg some zero)), ← List.cons_append,
        unpadded_zeros, idempotent]

theorem trimNul_eq_nil {text : Bytes} : trimNul text = [] ↔ ∀ byte ∈ text, byte = 0 := by
  constructor
  · intro empty
    have restored := unpadded_restore (text.dropWhile (· == 0))
    have none : text.dropWhile (· == 0) = [] := by
      unfold trimNul at empty
      rw [empty, List.nil_append] at restored
      have visible := List.head?_dropWhile_not (· == (0 : UInt8)) text
      rw [← restored] at visible
      rcases length : (text.dropWhile (· == 0)).length with _ | count
      · exact List.length_eq_zero_iff.mp length
      · rw [length] at visible
        cases visible
    intro byte member
    simpa using List.dropWhile_eq_nil_iff.mp none byte member
  · intro zeros
    rw [List.eq_replicate_of_mem zeros, ← List.append_nil (List.replicate _ _), trimNul_zeros]
    rfl

/-- A terminated string at the start of an array is what trimming leaves exactly when only zeros follow. -/
theorem trimNul_terminated_iff {text : Bytes} (noNul : 0 ∉ text) (rest : Bytes) :
    trimNul (text ++ 0 :: rest) = text ↔ ∀ byte ∈ rest, byte = 0 := by
  cases text with
  | nil =>
    rw [List.nil_append, trimNul_eq_nil]
    simp
  | cons first more =>
    have visible : first ≠ 0 := fun zero => noNul (by simp [zero])
    rw [List.cons_append, trimNul_visible visible, ← List.cons_append]
    constructor
    · intro same
      have restored := unpadded_restore (first :: more ++ 0 :: rest)
      rw [same] at restored
      intro byte member
      have padding := List.append_cancel_left restored
      apply List.eq_of_mem_replicate
      rw [padding]
      exact List.mem_cons_of_mem _ member
    · intro zeros
      rw [List.eq_replicate_of_mem zeros, ← List.replicate_succ, unpadded_zeros, unpadded_of_noNul noNul]

/-! ### Repetition -/

theorem flatten_replicate_length (count : Nat) (piece : Bytes) :
    (List.replicate count piece).flatten.length = count * piece.length := by
  rw [List.length_flatten, List.map_replicate, List.sum_replicate, smul_eq_mul]

/-- An array that goes on with its own start is made of one piece. -/
theorem repeats_iff {piece text : Bytes} (count : Nat) (length : text.length = (count + 1) * piece.length) :
    piece ++ text.take (count * piece.length) = text ↔ text = (List.replicate (count + 1) piece).flatten := by
  constructor
  · intro same
    induction count generalizing text with
    | zero =>
      rw [Nat.zero_mul, List.take_zero] at same
      exact same.symm
    | succ count ih =>
      have shorter : (text.take ((count + 1) * piece.length)).length = (count + 1) * piece.length := by
        rw [List.length_take, length, Nat.min_eq_left (Nat.mul_le_mul_right _ (Nat.le_succ _))]
      -- the start of the array goes on with its own start too
      have start : piece ++ (text.take ((count + 1) * piece.length)).take (count * piece.length) =
          text.take ((count + 1) * piece.length) := by
        have room : piece.length ≤ (count + 1) * piece.length := Nat.le_mul_of_pos_left _ (Nat.succ_pos _)
        conv => rhs; rw [← same]
        rw [List.take_append, List.take_of_length_le room, Nat.succ_mul, Nat.add_sub_cancel]
      rw [List.replicate_succ, List.flatten_cons, ← ih shorter start, same]
  · intro pieces
    have start : text.take (count * piece.length) = (List.replicate count piece).flatten := by
      rw [pieces, List.replicate_succ', List.flatten_append, ← flatten_replicate_length, List.take_left]
    rw [start, pieces, List.replicate_succ, List.flatten_cons]

end StbEbpf.CText
