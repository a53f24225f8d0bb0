import StbEbpf.Protocol.Dns

/-!
`parseDNSName` finds the name that a place in the message holds, with at most five pointers, and nothing else. The
loop is measured by the pointers it may still follow and, between two of them, by the bytes that are left.
-/

namespace StbEbpf.Protocol
open CText Access NetworkOrder DomainName

/-! ### What a byte says -/

theorem marked_iff (first : UInt8) : first.toNat &&& 0xC0 = 0xC0 ↔ 192 ≤ first.toNat := by
  have each : ∀ n < 256, (n &&& 0xC0 = 0xC0 ↔ 192 ≤ n) := by decide +kernel
  exact each first.toNat first.toNat_lt

theorem pointer_value {high low : UInt8} (marked : 192 ≤ high.toNat) :
    (word16 [high, low] &&& 0x3FFF).toNat = (high.toNat - 192) * 256 + low.toNat := by
  have one := high.toNat_lt
  have two := low.toNat_lt
  rw [UInt16.toNat_and, word16_toNat, show (0x3FFF : UInt16).toNat = 2 ^ 14 - 1 from rfl, Nat.and_two_pow_sub_one_eq_mod]
  omega

theorem readAt_some {data : Bytes} {offset : Nat} {first : UInt8} (read : data[offset]? = some first) :
    readAt data offset = .ok first := by
  unfold readAt
  rw [read]
  rfl

theorem readWord16_pair {data : Bytes} {offset : Nat} {high low : UInt8} (first : data[offset]? = some high)
    (second : data[offset + 1]? = some low) : readWord16 data offset = .ok (word16 [high, low]) := by
  obtain ⟨one, same⟩ := List.getElem?_eq_some_iff.mp first
  obtain ⟨two, same'⟩ := List.getElem?_eq_some_iff.mp second
  rw [readWord16_inside (by omega), List.drop_eq_getElem_cons one, List.drop_eq_getElem_cons two, same, same']
  rfl

/-! ### The loop -/

namespace NameWalk

/-- The walk ends in the name that stands at its offset, if the pointers left to it are enough. -/
def Finds (data : Bytes) (w : NameWalk) (r : Bytes × Int) : Prop :=
  ∃ pointers labels next, w.jumps + pointers ≤ 5 ∧ Resolves data pointers w.offset labels next ∧
    r = (dotted (w.parts ++ labels), if w.jumped then (w.originalOffset : Int) else next)

def Lost (data : Bytes) (w : NameWalk) : Prop :=
  ∀ pointers labels next, w.jumps + pointers ≤ 5 → ¬ Resolves data pointers w.offset labels next

def Outcome (data : Bytes) (w : NameWalk) (r : Bytes × Int) : Prop := w.Finds data r ∨ w.Lost data ∧ r = ([], -1)

/-- What the loop still has to do at most. -/
def todo (data : Bytes) (w : NameWalk) : Nat := (5 - w.jumps) * (data.length + 1) + (data.length - w.offset)

def pastLabel (data : Bytes) (w : NameWalk) (length : Nat) : NameWalk :=
  { w with offset := w.offset + 1 + length, parts := w.parts ++ [(data.drop (w.offset + 1)).take length] }

def atPointer (w : NameWalk) (pointer : Nat) : NameWalk :=
  { w with
    offset := pointer
    jumped := true
    originalOffset := if w.jumped then w.originalOffset else w.offset + 2
    jumps := w.jumps + 1 }

variable {data : Bytes} {w : NameWalk} {first : UInt8} {r : Bytes × Int}

theorem todo_pastLabel {length : Nat} (inside : w.offset + 1 + length ≤ data.length) :
    (w.pastLabel data length).todo data < w.todo data := by
  unfold todo pastLabel
  dsimp only
  omega

theorem todo_atPointer (pointer : Nat) (more : w.jumps < 5) : (w.atPointer pointer).todo data < w.todo data := by
  have fewer : 5 - w.jumps = (5 - (w.jumps + 1)) + 1 := by omega
  unfold todo atPointer
  dsimp only
  rw [fewer, Nat.add_mul, Nat.one_mul]
  omega

theorem lost_outside (outside : w.offset ≥ data.length) : w.Lost data := by
  intro pointers labels next _ resolves
  have := resolves_bounds resolves
  omega

theorem outcome_root (read : data[w.offset]? = some 0) (bounded : w.jumps ≤ 5) :
    w.Outcome data (dotted w.parts, if w.jumped then (w.originalOffset : Int) else (w.offset + 1 : Nat)) :=
  .inl ⟨0, [], w.offset + 1, bounded, .root read, by rw [List.append_nil]⟩

theorem outcome_label (read : data[w.offset]? = some first) (some_ : 1 ≤ first.toNat) (short : first.toNat ≤ 63)
    (inside : w.offset + 1 + first.toNat ≤ data.length) (later : (w.pastLabel data first.toNat).Outcome data r) :
    w.Outcome data r := by
  rcases later with ⟨pointers, labels, next, few, resolves, same⟩ | ⟨lost, same⟩
  · refine .inl ⟨pointers, _ :: labels, next, few, .label read some_ short inside resolves, ?_⟩
    rw [same]
    unfold pastLabel
    rw [List.append_assoc, List.singleton_append]
  · refine .inr ⟨?_, same⟩
    intro pointers labels next few resolves
    obtain ⟨-, rest, -, resolves⟩ := (resolves_label_iff read some_ short).mp resolves
    exact lost pointers rest next few resolves

theorem outcome_pointer {low : UInt8} (read : data[w.offset]? = some first) (marked : 192 ≤ first.toNat)
    (follows : data[w.offset + 1]? = some low)
    (later : (w.atPointer ((first.toNat - 192) * 256 + low.toNat)).Outcome data r) : w.Outcome data r := by
  rcases later with ⟨pointers, labels, next, few, resolves, same⟩ | ⟨lost, same⟩
  · refine .inl ⟨pointers + 1, labels, w.offset + 2, ?_, .pointer read marked follows resolves, ?_⟩
    · replace few : w.jumps + 1 + pointers ≤ 5 := few
      omega
    · rw [same]
      unfold atPointer
      cases w.jumped <;> rfl
  · refine .inr ⟨?_, same⟩
    intro pointers labels next few resolves
    obtain ⟨low', fewer, elsewhere, again, rfl, -, resolves⟩ := (resolves_pointer_iff read marked).mp resolves
    cases follows.symm.trans again
    refine lost fewer labels elsewhere ?_ resolves
    show w.jumps + 1 + fewer ≤ 5
    omega

theorem lost_label (read : data[w.offset]? = some first) (some_ : 1 ≤ first.toNat) (short : first.toNat ≤ 63)
    (outside : w.offset + 1 + first.toNat > data.length) : w.Lost data := by
  intro pointers labels next _ resolves
  have inside := ((resolves_label_iff read some_ short).mp resolves).1
  omega

/-- The sixth pointer is not followed. -/
theorem lost_pointer (read : data[w.offset]? = some first) (marked : 192 ≤ first.toNat)
    (spent : data.length ≤ w.offset + 1 ∨ 5 ≤ w.jumps) : w.Lost data := by
  intro pointers labels next few resolves
  obtain ⟨low, fewer, elsewhere, follows, rfl, -, -⟩ := (resolves_pointer_iff read marked).mp resolves
  have := (List.getElem?_eq_some_iff.mp follows).1
  omega

end NameWalk

open parseDNSName NameWalk

theorem loop_outcome (data : Bytes) (fuel : Nat) (w : NameWalk) (bounded : w.jumps ≤ 5) (enough : w.todo data < fuel) :
    ∃ r, loop data fuel w = .ok r ∧ w.Outcome data r := by
  induction fuel generalizing w with
  | zero => omega
  | succ fuel ih =>
    unfold loop
    by_cases outside : w.offset ≥ data.length
    · rw [if_pos outside]
      exact ⟨_, rfl, .inr ⟨lost_outside outside, rfl⟩⟩
    rw [if_neg outside]
    obtain ⟨first, read⟩ : ∃ first, data[w.offset]? = some first :=
      ⟨_, List.getElem?_eq_getElem (Nat.lt_of_not_le outside)⟩
    rw [readAt_some read, ok_bind]
    dsimp only
    by_cases zero : first.toNat = 0
    · rw [if_pos zero]
      obtain rfl : first = 0 := UInt8.toNat_inj.mp zero
      exact ⟨_, rfl, outcome_root read bounded⟩
    rw [if_neg zero]
    by_cases marked : 192 ≤ first.toNat
    · rw [if_pos ((marked_iff first).mpr marked)]
      by_cases last : w.offset + 1 ≥ data.length
      · rw [if_pos last]
        exact ⟨_, rfl, .inr ⟨lost_pointer read marked (.inl last), rfl⟩⟩
      rw [if_neg last]
      obtain ⟨low, follows⟩ : ∃ low, data[w.offset + 1]? = some low :=
        ⟨_, List.getElem?_eq_getElem (Nat.lt_of_not_le last)⟩
      rw [readWord16_pair read follows, ok_bind, pointer_value marked]
      by_cases spent : w.jumps ≥ maxJumps
      · rw [if_pos spent]
        exact ⟨_, rfl, .inr ⟨lost_pointer read marked (.inr spent), rfl⟩⟩
      rw [if_neg spent]
      replace spent : w.jumps < 5 := Nat.lt_of_not_le spent
      have less : (w.atPointer ((first.toNat - 192) * 256 + low.toNat)).todo data < w.todo data :=
        todo_atPointer _ spent
      obtain ⟨r, ends, outcome⟩ := ih (w.atPointer ((first.toNat - 192) * 256 + low.toNat)) spent (by omega)
      exact ⟨r, ends, outcome_pointer read marked follows outcome⟩
    · rw [if_neg (mt (marked_iff first).mp marked)]
      by_cases long : first.toNat > 63
      · rw [if_pos long]
        exact ⟨_, rfl, .inr ⟨fun _ _ _ _ => not_resolves_reserved read long (Nat.lt_of_not_le marked), rfl⟩⟩
      rw [if_neg long]
      by_cases beyond : w.offset + 1 + first.toNat > data.length
      · rw [if_pos beyond]
        exact ⟨_, rfl, .inr ⟨lost_label read (by omega) (by omega) beyond, rfl⟩⟩
      rw [if_neg beyond, readRange_inside (by omega), ok_bind]
      have less : (w.pastLabel data first.toNat).todo data < w.todo data := todo_pastLabel (by omega)
      obtain ⟨r, ends, outcome⟩ := ih (w.pastLabel data first.toNat) bounded (by omega)
      exact ⟨r, ends, outcome_label read (by omega) (by omega) (by omega) outcome⟩

/-! ### The function -/

/-- The name at a place: its text and the position after it, or the empty name and -1. -/
def NameAt (data : Bytes) (offset : Nat) (r : Bytes × Int) : Prop :=
  (∃ pointers labels next, pointers ≤ 5 ∧ Resolves data pointers offset labels next ∧ r = (dotted labels, (next : Int))) ∨
  (∀ pointers labels next, pointers ≤ 5 → ¬ Resolves data pointers offset labels next) ∧ r = ([], -1)

/-- The loop ends after at most this number of rounds, and a larger bound changes nothing. -/
theorem loop_nameAt (data : Bytes) (offset fuel : Nat) (enough : rounds data ≤ fuel) :
    ∃ r, loop data fuel { offset, originalOffset := offset } = .ok r ∧ NameAt data offset r := by
  have start : (NameWalk.mk offset [] false offset 0).todo data < fuel := by
    unfold rounds at enough
    unfold todo
    dsimp only
    omega
  obtain ⟨r, ends, outcome⟩ := loop_outcome data fuel { offset, originalOffset := offset } (Nat.zero_le _) start
  refine ⟨r, ends, ?_⟩
  rcases outcome with ⟨pointers, labels, next, few, resolves, same⟩ | ⟨lost, same⟩
  · exact .inl ⟨pointers, labels, next, by simpa using few, resolves, same⟩
  · exact .inr ⟨fun pointers labels next few => lost pointers labels next (by simpa using few), same⟩

theorem parseDNSName_nameAt (data : Bytes) (offset : Nat) :
    ∃ r, parseDNSName data offset = .ok r ∧ NameAt data offset r := by
  unfold parseDNSName
  split
  · rename_i outside
    refine ⟨_, rfl, .inr ⟨?_, rfl⟩⟩
    intro pointers labels next _ resolves
    have := resolves_bounds resolves
    omega
  · exact loop_nameAt data offset (rounds data) (Nat.le_refl _)

theorem parseDNSName_resolves {data : Bytes} {pointers offset next : Nat} {labels : List Bytes} (few : pointers ≤ 5)
    (resolves : Resolves data pointers offset labels next) :
    parseDNSName data offset = .ok (dotted labels, (next : Int)) := by
  obtain ⟨r, ends, ⟨pointers', labels', next', -, again, rfl⟩ | ⟨lost, -⟩⟩ := parseDNSName_nameAt data offset
  · obtain ⟨-, rfl, rfl⟩ := resolves_unique resolves again
    exact ends
  · exact absurd resolves (lost pointers labels next few)

theorem parseDNSName_lost {data : Bytes} {offset : Nat}
    (lost : ∀ pointers labels next, pointers ≤ 5 → ¬ Resolves data pointers offset labels next) :
    parseDNSName data offset = .ok ([], -1) := by
  obtain ⟨r, ends, ⟨pointers, labels, next, few, resolves, -⟩ | ⟨-, rfl⟩⟩ := parseDNSName_nameAt data offset
  · exact absurd resolves (lost pointers labels next few)
  · exact ends

theorem parseDNSName_iff {data : Bytes} {offset : Nat} {r : Bytes × Int} :
    parseDNSName data offset = .ok r ↔ NameAt data offset r := by
  constructor
  · intro ends
    obtain ⟨r', ends', nameAt⟩ := parseDNSName_nameAt data offset
    cases ends.symm.trans ends'
    exact nameAt
  · rintro (⟨pointers, labels, next, few, resolves, rfl⟩ | ⟨lost, rfl⟩)
    · exact parseDNSName_resolves few resolves
    · exact parseDNSName_lost lost

/-- The position that comes with a name lies behind it and in the slice. -/
theorem parseDNSName_position {data : Bytes} {offset : Nat} {name : Bytes} {position : Int}
    (ends : parseDNSName data offset = .ok (name, position)) :
    position = -1 ∧ name = [] ∨ (offset : Int) < position ∧ position ≤ data.length := by
  obtain ⟨r, same, ⟨pointers, labels, next, -, resolves, rfl⟩ | ⟨-, rfl⟩⟩ := parseDNSName_nameAt data offset
  · cases ends.symm.trans same
    have := resolves_bounds resolves
    exact .inr (by omega)
  · cases ends.symm.trans same
    exact .inl ⟨rfl, rfl⟩

/-- `parseDNSName` reads RFC 1035 names with at most five pointers: it ends, finds every such name with the position
after it, and answers anything else with the empty name and -1. -/
theorem parseDNSName_reads_names (data : Bytes) (offset : Nat) :
    (∀ fuel, rounds data ≤ fuel → ∃ r, loop data fuel { offset, originalOffset := offset } = .ok r) ∧
    (∀ pointers labels next, pointers ≤ 5 → Resolves data pointers offset labels next →
      parseDNSName data offset = .ok (dotted labels, (next : Int))) ∧
    ((¬ ∃ pointers labels next, pointers ≤ 5 ∧ Resolves data pointers offset labels next) →
      parseDNSName data offset = .ok ([], -1)) ∧
    ∀ name position, parseDNSName data offset = .ok (name, position) → position ≠ -1 →
      (offset : Int) < position ∧ position ≤ data.length := by
  refine ⟨?_, ?_, ?_, ?_⟩
  · intro fuel enough
    obtain ⟨r, ends, -⟩ := loop_nameAt data offset fuel enough
    exact ⟨r, ends⟩
  · intro pointers labels next few resolves
    exact parseDNSName_resolves few resolves
  · intro none_
    refine parseDNSName_lost fun pointers labels next few resolves => ?_
    exact none_ ⟨pointers, labels, next, few, resolves⟩
  · intro name position ends found
    rcases parseDNSName_position ends with ⟨lost, -⟩ | inside
    · exact absurd lost found
    · exact inside

end StbEbpf.Protocol
