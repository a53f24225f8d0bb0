import Mathlib.Data.List.Sort
import StbEbpf.Lib.Json

/-!
A JSON text as a string of another one. The text of an object is valid UTF-8 when its literals are, so quoting it loses
nothing; and an object with distinct names has the same members in whatever order they are written.
-/

namespace StbEbpf.Utf8
open CText

theorem pieces_append_valid {text : Bytes} (ok : valid text = true) (rest : Bytes) :
    pieces (text ++ rest) = pieces text ++ pieces rest := by
  have each (list : List Piece) (proper : ∀ piece ∈ list, piece.proper ∧ piece.isStray = false) :
      pieces (list.flatMap Piece.bytes ++ rest) = list ++ pieces rest := by
    induction list with
    | nil => rfl
    | cons piece list ih =>
      obtain ⟨proper, whole⟩ := List.forall_mem_cons.mp proper
      obtain ⟨fits, kept⟩ := proper
      rw [List.flatMap_cons, List.append_assoc]
      cases piece with
      | ascii byte =>
        rw [Piece.bytes, List.singleton_append, pieces_ascii fits, ih whole, List.cons_append]
      | wide bytes =>
        rw [Piece.bytes, pieces_wide fits, ih whole, List.cons_append]
      | stray byte => cases kept
  have proper : ∀ piece ∈ pieces text, piece.proper ∧ piece.isStray = false := by
    intro piece member
    have kept := List.all_eq_true.mp ok piece member
    exact ⟨pieces_proper text piece member, by simpa using kept⟩
  have joined := each (pieces text) proper
  rwa [pieces_join] at joined

theorem valid_append {first second : Bytes} (one : valid first = true) (two : valid second = true) :
    valid (first ++ second) = true := by
  unfold valid at one two ⊢
  rw [pieces_append_valid one, List.all_append, one, two]
  rfl

theorem valid_low {text : Bytes} (low : ∀ byte ∈ text, byte < 0x80) : valid text = true := by
  have split := pieces_low low []
  rw [List.append_nil, pieces, List.append_nil] at split
  unfold valid
  rw [split]
  simp [Piece.isStray]

theorem valid_wide {text : Bytes} (wide : isWide text = true) : valid text = true := by
  have split := pieces_wide wide []
  rw [List.append_nil, pieces] at split
  unfold valid
  rw [split]
  rfl

theorem valid_cons {byte : UInt8} (low : byte < 0x80) {rest : Bytes} (ok : valid rest = true) :
    valid (byte :: rest) = true := by
  have single : valid [byte] = true := valid_low (by simpa using low)
  exact valid_append single ok

end StbEbpf.Utf8

namespace StbEbpf.Json
open CText Access Utf8

/-! ### The texts are valid -/

theorem quoted_valid (text : Bytes) : valid (quoted text) = true := by
  have each (list : List Piece) (proper : ∀ piece ∈ list, piece.proper) : valid (list.flatMap quotedPiece) = true := by
    induction list with
    | nil => rfl
    | cons piece list ih =>
      obtain ⟨fits, rest⟩ := List.forall_mem_cons.mp proper
      rw [List.flatMap_cons]
      apply valid_append _ (ih rest)
      cases piece with
      | ascii byte => exact valid_low (quotedByte_ascii fits)
      | stray byte =>
        have escape : valid [92, 117, 102, 102, 102, 100] = true := valid_low (by decide +kernel)
        exact escape
      | wide bytes =>
        unfold quotedPiece
        dsimp only
        split_ifs
        · exact valid_low (by decide +kernel)
        · exact valid_low (by decide +kernel)
        · exact valid_wide fits
  exact each (pieces text) (pieces_proper text)

theorem isDigit_low {byte : UInt8} (digit : isDigit byte = true) : byte < 0x80 := by
  revert byte
  decide +kernel

theorem Numeral.Ok.text_valid {n : Numeral} (ok : n.Ok) : valid n.text = true := by
  have whole : ∀ byte ∈ n.whole, byte < 0x80 := by
    intro byte member
    rcases ok.whole with zero | ⟨-, -, digits⟩
    · rw [zero] at member
      rw [List.mem_singleton.mp member]
      decide
    · exact isDigit_low (digits byte member)
  have fraction : ∀ byte ∈ fractionText n.fraction, byte < 0x80 := by
    intro byte member
    unfold fractionText at member
    split at member
    · cases member
    · rcases List.mem_cons.mp member with rfl | later
      · decide
      · exact isDigit_low (ok.fraction byte later)
  have exponent : ∀ byte ∈ exponentText n.exponent, byte < 0x80 := by
    intro byte member
    cases form : n.exponent with
    | none =>
      rw [form] at member
      cases member
    | some parts =>
      obtain ⟨negative, digits⟩ := parts
      rw [form] at member
      rcases List.mem_cons.mp member with rfl | later
      · decide
      · rcases List.mem_cons.mp later with rfl | last
        · cases negative <;> decide
        · exact isDigit_low ((ok.exponent negative digits form).2 byte last)
  have sign : ∀ byte ∈ (if n.negative then [45] else [] : Bytes), byte < 0x80 := by
    cases n.negative <;> simp
  exact valid_append (valid_append (valid_append (valid_low sign) (valid_low whole)) (valid_low fraction)) (valid_low exponent)

theorem string_text_valid {raw : Bytes} (ok : valid raw = true) : valid (Value.string raw).text = true :=
  valid_cons (by decide) (valid_append ok (by decide))

theorem member_text_valid {raw text rest : Bytes} (key : valid raw = true) (value : valid text = true)
    (after : valid rest = true) : valid (34 :: raw ++ 34 :: 58 :: text ++ rest) = true := by
  apply valid_append _ after
  exact valid_cons (by decide) (valid_append key (valid_cons (by decide) (valid_cons (by decide) value)))

theorem membersText_valid {members : List (Bytes × Value)}
    (each : ∀ member ∈ members, valid member.1 = true ∧ valid member.2.text = true) :
    valid (membersText members) = true := by
  induction members with
  | nil => decide
  | cons member rest ih =>
    obtain ⟨⟨key, value⟩, later⟩ := List.forall_mem_cons.mp each
    exact valid_cons (by decide) (member_text_valid key value (ih later))

theorem object_text_valid {members : List (Bytes × Value)}
    (each : ∀ member ∈ members, valid member.1 = true ∧ valid member.2.text = true) :
    valid (Value.object members).text = true := by
  cases members with
  | nil => decide
  | cons member rest =>
    obtain ⟨⟨key, value⟩, later⟩ := List.forall_mem_cons.mp each
    exact valid_cons (by decide) (member_text_valid key value (membersText_valid later))

/-! ### Members by name -/

/-- The member of that name; of several, the first. -/
def Value.member (name : Bytes) : Value → Option Value
  | .object members => (members.find? fun member => unquote member.1 = some name).map Prod.snd
  | _ => none

/-- The members in the order of their names. -/
def sortMembers (members : List (Bytes × Value)) : List (Bytes × Value) :=
  members.insertionSort fun a b => a.1 ≤ b.1

theorem mem_sortMembers {members : List (Bytes × Value)} {member : Bytes × Value} :
    member ∈ sortMembers members ↔ member ∈ members :=
  (List.perm_insertionSort _ members).mem_iff

theorem member_sorted {members : List (Bytes × Value)} (named : ∀ member ∈ members, unquote member.1 = some member.1)
    (distinct : (members.map Prod.fst).Nodup) {name : Bytes} {value : Value} (present : (name, value) ∈ members) :
    (Value.object (sortMembers members)).member name = some value := by
  have apart := List.inj_on_of_nodup_map distinct
  cases found : (sortMembers members).find? fun member => unquote member.1 = some name with
  | none =>
    have missing := List.find?_eq_none.mp found (name, value) (mem_sortMembers.mpr present)
    exact absurd (decide_eq_true (named _ present)) missing
  | some member =>
    have inside := mem_sortMembers.mp (List.mem_of_find?_eq_some found)
    have called : unquote member.1 = some name := by simpa using List.find?_some found
    rw [named member inside] at called
    have same := apart inside present (Option.some.inj called)
    show Option.map Prod.snd _ = _
    rw [found, same]
    rfl

end StbEbpf.Json
