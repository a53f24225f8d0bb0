import StbEbpf.Lib.Access

/-!
What the string functions find in a region that holds a text and its NUL, and arrays of characters that are zeroed
before a text is copied to their start.
-/

namespace StbEbpf.Access
open CText

/-! ### Searching -/

section
variable (rest : Bytes)

theorem strchr_first {byte : UInt8} {before : Bytes} (absent : byte ∉ before) (visible : 0 ∉ before) :
    strchr byte (before ++ byte :: rest) = .ok (some before.length) := by
  induction before with
  | nil => exact if_pos rfl
  | cons head before ih =>
    have other : head ≠ byte := fun same => absent (by simp [same])
    have more : head ≠ 0 := fun same => visible (by simp [same])
    rw [List.cons_append, strchr, if_neg other, if_neg more,
      ih (fun member => absent (by simp [member])) (fun member => visible (by simp [member]))]
    rfl

theorem skipWhile_stop {p : UInt8 → Bool} {stop : UInt8} (stops : p stop = false) (text : Bytes) :
    skipWhile p (text ++ stop :: rest) = .ok (text.dropWhile p ++ stop :: rest) := by
  induction text with
  | nil => exact if_neg (by simp [stops])
  | cons head text ih =>
    rw [List.cons_append, skipWhile]
    by_cases skipped : p head = true
    · rw [if_pos skipped, ih, List.dropWhile_cons_of_pos skipped]
    · rw [if_neg skipped, List.dropWhile_cons_of_neg skipped]
      rfl

/-- A pattern without NUL is not found across the end of the text. -/
theorem startsWith_text {pattern : Bytes} (visible : 0 ∉ pattern.map toLower) (text : Bytes) :
    startsWith pattern (text ++ 0 :: rest) = .ok ((pattern.map toLower).isPrefixOf (text.map toLower)) := by
  induction pattern generalizing text with
  | nil => rfl
  | cons wanted pattern ih =>
    rw [List.map_cons, List.mem_cons, not_or] at visible
    cases text with
    | nil => exact if_neg visible.1
    | cons head text =>
      rw [List.cons_append, startsWith, ih visible.2]
      by_cases same : toLower head = toLower wanted
      · simp [same]
      · have apart : (toLower wanted == toLower head) = false := by simpa using Ne.symm same
        simp only [if_neg same, List.map_cons, List.isPrefixOf, apart, Bool.false_and]
        rfl

end

/-- What stands behind the first occurrence of the pattern, up to case. -/
def afterMatch (pattern : Bytes) : Bytes → Option Bytes
  | [] => none
  | byte :: text =>
    if (pattern.map toLower).isPrefixOf ((byte :: text).map toLower) then some ((byte :: text).drop pattern.length)
    else afterMatch pattern text

section
variable {pattern : Bytes}

theorem strcasestr_text (some_ : pattern ≠ []) (visible : 0 ∉ pattern.map toLower) {text : Bytes} (noNul : 0 ∉ text)
    (rest : Bytes) :
    ∃ found, strcasestr pattern (text ++ 0 :: rest) = .ok found ∧
      found.map (fun k => (text ++ 0 :: rest).drop (k + pattern.length)) =
        (afterMatch pattern text).map (· ++ 0 :: rest) := by
  induction text with
  | nil =>
    have missing : (pattern.map toLower).isPrefixOf [] = false := by
      cases pattern with
      | nil => exact absurd rfl some_
      | cons => rfl
    have starts := startsWith_text rest visible []
    rw [List.map_nil, missing, List.nil_append] at starts
    refine ⟨none, ?_, rfl⟩
    rw [List.nil_append, strcasestr, starts]
    rfl
  | cons head text ih =>
    have starts := startsWith_text rest visible (head :: text)
    rw [List.cons_append] at starts
    rw [List.cons_append, strcasestr, starts, ok_bind, afterMatch]
    by_cases here : (pattern.map toLower).isPrefixOf ((head :: text).map toLower) = true
    · have fits : pattern.length ≤ (head :: text).length := by
        simpa using (List.isPrefixOf_iff_prefix.mp here).length_le
      refine ⟨some 0, if_pos here, ?_⟩
      rw [if_pos here, Option.map_some, Option.map_some, Nat.zero_add, ← List.cons_append, List.drop_append_of_le_length fits]
    · have more : head ≠ 0 := fun same => noNul (by simp [same])
      obtain ⟨found, searched, behind⟩ := ih fun member => noNul (by simp [member])
      refine ⟨found.map (· + 1), ?_, ?_⟩
      · rw [if_neg here, if_neg more, searched]
        rfl
      · rw [if_neg here, ← behind, Option.map_map]
        congr 1
        funext k
        rw [Function.comp_apply, show k + 1 + pattern.length = k + pattern.length + 1 by omega, List.drop_succ_cons]

theorem prefix_upto {barrier : UInt8} {left : Bytes} (absent : barrier ∉ pattern) (right : Bytes) :
    pattern <+: left ++ barrier :: right ↔ pattern <+: left := by
  constructor
  · intro starts
    have split : left ++ barrier :: right = left ++ [barrier] ++ right := by simp
    rw [split] at starts
    -- the pattern ends before the byte, or has it
    obtain short | long := List.prefix_or_prefix_of_prefix starts (List.prefix_append _ _)
    · obtain rfl | inside := List.prefix_concat_iff.mp short
      · exact absurd (by simp) absent
      · exact inside
    · exact absurd (long.mem (by simp)) absent
  · intro starts
    exact starts.trans (List.prefix_append _ _)

/-- A byte that the pattern does not have ends the search on its left. -/
theorem afterMatch_upto {barrier : UInt8} (absent : toLower barrier ∉ pattern.map toLower) (some_ : pattern ≠ [])
    (left right : Bytes) :
    afterMatch pattern (left ++ barrier :: right) =
      ((afterMatch pattern left).map (· ++ barrier :: right)).or (afterMatch pattern right) := by
  induction left with
  | nil =>
    have missing : ¬ (pattern.map toLower).isPrefixOf ((barrier :: right).map toLower) = true := by
      rw [List.isPrefixOf_iff_prefix, List.map_cons, ← List.nil_append (toLower barrier :: _), prefix_upto absent,
        List.prefix_nil, List.map_eq_nil_iff]
      exact some_
    rw [List.nil_append]
    exact if_neg missing
  | cons head left ih =>
    have same : (pattern.map toLower).isPrefixOf ((head :: (left ++ barrier :: right)).map toLower) =
        (pattern.map toLower).isPrefixOf ((head :: left).map toLower) := by
      rw [Bool.eq_iff_iff, List.isPrefixOf_iff_prefix, List.isPrefixOf_iff_prefix, ← List.cons_append, List.map_append,
        List.map_cons (l := right), prefix_upto absent]
    rw [List.cons_append, afterMatch, afterMatch, same]
    split
    · rename_i here
      have fits : pattern.length ≤ (head :: left).length := by
        simpa using (List.isPrefixOf_iff_prefix.mp here).length_le
      rw [Option.map_some, Option.some_or, ← List.cons_append, List.drop_append_of_le_length fits]
    · exact ih

theorem afterMatch_suffix {text behind : Bytes} (found : afterMatch pattern text = some behind) : behind <:+ text := by
  induction text with
  | nil => cases found
  | cons head text ih =>
    unfold afterMatch at found
    split at found
    · cases found
      exact List.drop_suffix _ _
    · exact (ih found).trans (List.suffix_cons _ _)

end

/-! ### Arrays of zeros -/

/-- A zeroed array of `size` bytes with this text at its start. -/
def filled (size : Nat) (text : Bytes) : Bytes := text ++ List.replicate (size - text.length) 0

section
variable {size : Nat} {text : Bytes}

theorem writeAt_filled (room : text.length < size) (byte : UInt8) :
    writeAt (filled size text) text.length byte = .ok (filled size (text ++ [byte])) := by
  have zeros : List.replicate (size - text.length) (0 : UInt8) =
      0 :: List.replicate (size - (text ++ [byte]).length) 0 := by
    rw [← List.replicate_succ, List.length_append, List.length_singleton]
    congr 1
    omega
  unfold writeAt filled
  rw [if_pos (by rw [List.length_append, List.length_replicate]; omega), zeros, List.set_append_right _ _ (Nat.le_refl _),
    Nat.sub_self, List.set_cons_zero, List.append_assoc, List.singleton_append]
  rfl

/-- Marking the end of the text changes nothing. -/
theorem writeAt_end (room : text.length < size) : writeAt (filled size text) text.length 0 = .ok (filled size text) := by
  rw [writeAt_filled room]
  unfold filled
  rw [List.append_assoc, List.singleton_append, ← List.replicate_succ, List.length_append, List.length_singleton]
  congr 3
  omega

theorem writeStart_filled (room : text.length ≤ size) :
    writeStart (List.replicate size 0) text = .ok (filled size text) := by
  unfold writeStart filled
  rw [List.length_replicate, if_pos room, List.drop_replicate]
  rfl

theorem cut_filled (visible : 0 ∉ text) : cut (filled size text) = text := by
  have shown : ∀ byte ∈ text, (byte != 0) = true := by
    intro byte member
    simp only [bne_iff_ne, ne_eq]
    rintro rfl
    exact visible member
  have zeros : (List.replicate (size - text.length) (0 : UInt8)).takeWhile (· != 0) = [] := by
    cases size - text.length <;> rfl
  unfold cut filled
  rw [List.takeWhile_append_of_pos shown, zeros, List.append_nil]

/-- What follows the terminator is not part of the text. -/
theorem cut_append {text : Bytes} (terminated : Terminated text) (rest : Bytes) : cut (text ++ rest) = cut text := by
  unfold cut
  rw [List.takeWhile_append, if_neg]
  intro whole
  have all := List.takeWhile_eq_self_iff.mp (List.IsPrefix.eq_of_length (List.takeWhile_prefix _) whole)
  simpa using all 0 terminated

theorem cut_take (count : Nat) (text : Bytes) : cut (text.take count) = (cut text).take count := by
  unfold cut
  induction text generalizing count with
  | nil => simp
  | cons head rest ih =>
    cases count with
    | zero => simp
    | succ count =>
      rw [List.take_succ_cons, List.takeWhile_cons, List.takeWhile_cons]
      split
      · rw [ih, List.take_succ_cons]
      · rfl

end

end StbEbpf.Access
