import StbEbpf.Lib.CText

/-!
Domain names as they lie in a message: labels of 1 to 63 bytes, closed by a zero byte or by a pointer to the place
where the name goes on. A pointer may lead anywhere in the message.
-/

namespace StbEbpf.DomainName
open CText

/-- The name at `offset` has these labels, is found with this number of pointers, and ends in place before `next`. -/
inductive Resolves (message : Bytes) : (pointers offset : Nat) → List Bytes → (next : Nat) → Prop
  | root {offset : Nat} (zero : message[offset]? = some 0) : Resolves message 0 offset [] (offset + 1)
  | label {pointers offset next : Nat} {length : UInt8} {labels : List Bytes}
      (read : message[offset]? = some length) (some_ : 1 ≤ length.toNat) (short : length.toNat ≤ 63)
      (inside : offset + 1 + length.toNat ≤ message.length)
      (rest : Resolves message pointers (offset + 1 + length.toNat) labels next) :
      Resolves message pointers offset (((message.drop (offset + 1)).take length.toNat) :: labels) next
  | pointer {pointers offset next : Nat} {high low : UInt8} {labels : List Bytes}
      (read : message[offset]? = some high) (marked : 192 ≤ high.toNat) (follows : message[offset + 1]? = some low)
      (rest : Resolves message pointers ((high.toNat - 192) * 256 + low.toNat) labels next) :
      Resolves message (pointers + 1) offset labels (offset + 2)

def dotted (labels : List Bytes) : Bytes := [46].intercalate labels

theorem dotted_cons {label : Bytes} {labels : List Bytes} (more : labels ≠ []) :
    dotted (label :: labels) = label ++ 46 :: dotted labels := by
  cases labels with
  | nil => exact absurd rfl more
  | cons next labels => simp [dotted, List.intercalate]

theorem dotted_concat {labels : List Bytes} (label : Bytes) (some_ : labels ≠ []) :
    dotted (labels ++ [label]) = dotted labels ++ 46 :: label := by
  induction labels with
  | nil => exact absurd rfl some_
  | cons first labels ih =>
    rw [List.cons_append, dotted_cons (by simp)]
    by_cases last : labels = []
    · subst last
      simp [dotted, List.intercalate]
    · rw [ih last, dotted_cons last, List.append_assoc, List.cons_append]

theorem length_dotted_le (labels more : List Bytes) : (dotted labels).length ≤ (dotted (labels ++ more)).length := by
  induction more using List.reverseRecOn with
  | nil => rw [List.append_nil]
  | append_singleton more last ih =>
    rw [← List.append_assoc]
    by_cases none_ : labels ++ more = []
    · rw [(List.append_eq_nil_iff.mp none_).1]
      exact Nat.zero_le _
    · rw [dotted_concat last none_, List.length_append]
      omega

section
variable {message : Bytes} {pointers offset next : Nat} {labels : List Bytes}

/-! ### What the first byte decides -/

theorem resolves_root_iff (zero : message[offset]? = some 0) :
    Resolves message pointers offset labels next ↔ pointers = 0 ∧ labels = [] ∧ next = offset + 1 := by
  constructor
  · intro resolves
    cases resolves with
    | root => exact ⟨rfl, rfl, rfl⟩
    | label read some_ =>
      cases zero.symm.trans read
      cases some_
    | pointer read marked =>
      cases zero.symm.trans read
      cases marked
  · rintro ⟨rfl, rfl, rfl⟩
    exact .root zero

theorem resolves_label_iff {length : UInt8} (read : message[offset]? = some length) (some_ : 1 ≤ length.toNat)
    (short : length.toNat ≤ 63) :
    Resolves message pointers offset labels next ↔
      offset + 1 + length.toNat ≤ message.length ∧
      ∃ rest, labels = ((message.drop (offset + 1)).take length.toNat) :: rest ∧
        Resolves message pointers (offset + 1 + length.toNat) rest next := by
  constructor
  · intro resolves
    cases resolves with
    | root zero =>
      cases zero.symm.trans read
      cases some_
    | label again _ _ inside rest =>
      cases read.symm.trans again
      exact ⟨inside, _, rfl, rest⟩
    | pointer again marked =>
      cases read.symm.trans again
      omega
  · rintro ⟨inside, rest, rfl, resolves⟩
    exact .label read some_ short inside resolves

theorem resolves_pointer_iff {high : UInt8} (read : message[offset]? = some high) (marked : 192 ≤ high.toNat) :
    Resolves message pointers offset labels next ↔
      ∃ low fewer elsewhere, message[offset + 1]? = some low ∧ pointers = fewer + 1 ∧ next = offset + 2 ∧
        Resolves message fewer ((high.toNat - 192) * 256 + low.toNat) labels elsewhere := by
  constructor
  · intro resolves
    cases resolves with
    | root zero =>
      cases zero.symm.trans read
      cases marked
    | label again _ short =>
      cases read.symm.trans again
      omega
    | pointer again _ follows rest =>
      cases read.symm.trans again
      exact ⟨_, _, _, follows, rfl, rfl, rest⟩
  · rintro ⟨low, fewer, elsewhere, follows, rfl, rfl, rest⟩
    exact .pointer read marked follows rest

theorem not_resolves_reserved {first : UInt8} (read : message[offset]? = some first) (above : 63 < first.toNat)
    (below : first.toNat < 192) : ¬ Resolves message pointers offset labels next := by
  intro resolves
  cases resolves with
  | root zero =>
    cases zero.symm.trans read
    cases above
  | label again _ short =>
    cases read.symm.trans again
    omega
  | pointer again marked =>
    cases read.symm.trans again
    omega

/-! ### The name and its end -/

/-- A place in a message holds at most one name. -/
theorem resolves_unique {pointers' next' : Nat} {labels' : List Bytes}
    (one : Resolves message pointers offset labels next) (two : Resolves message pointers' offset labels' next') :
    pointers = pointers' ∧ labels = labels' ∧ next = next' := by
  induction one generalizing pointers' labels' next' with
  | root zero =>
    obtain ⟨rfl, rfl, rfl⟩ := (resolves_root_iff zero).mp two
    exact ⟨rfl, rfl, rfl⟩
  | label read some_ short inside rest ih =>
    obtain ⟨-, rest', rfl, later⟩ := (resolves_label_iff read some_ short).mp two
    obtain ⟨rfl, rfl, rfl⟩ := ih later
    exact ⟨rfl, rfl, rfl⟩
  | pointer read marked follows rest ih =>
    obtain ⟨low, fewer, elsewhere, again, rfl, rfl, later⟩ := (resolves_pointer_iff read marked).mp two
    cases follows.symm.trans again
    obtain ⟨rfl, rfl, -⟩ := ih later
    exact ⟨rfl, rfl, rfl⟩

theorem resolves_bounds (resolves : Resolves message pointers offset labels next) :
    offset < next ∧ next ≤ message.length := by
  induction resolves with
  | root zero =>
    have := (List.getElem?_eq_some_iff.mp zero).1
    omega
  | label read some_ short inside rest ih => omega
  | pointer read marked follows rest ih =>
    have := (List.getElem?_eq_some_iff.mp follows).1
    omega

end

/-! ### Names without pointers -/

def Proper (label : Bytes) : Prop := 1 ≤ label.length ∧ label.length ≤ 63

def encode (labels : List Bytes) : Bytes := labels.flatMap (fun label => UInt8.ofNat label.length :: label) ++ [0]

theorem encode_cons (label : Bytes) (labels : List Bytes) :
    encode (label :: labels) = UInt8.ofNat label.length :: (label ++ encode labels) := by
  simp [encode]

theorem length_lt_encode (labels : List Bytes) : labels.length < (encode labels).length := by
  induction labels with
  | nil => decide
  | cons label labels ih =>
    rw [encode_cons, List.length_cons, List.length_cons, List.length_append]
    omega

theorem resolves_encoded {labels : List Bytes} (proper : ∀ label ∈ labels, Proper label) (before after : Bytes) :
    Resolves (before ++ (encode labels ++ after)) 0 before.length labels (before.length + (encode labels).length) := by
  induction labels generalizing before with
  | nil => exact .root (by simp [encode])
  | cons label labels ih =>
    obtain ⟨some_, short⟩ := proper label (by simp)
    have size : (UInt8.ofNat label.length).toNat = label.length := UInt8.toNat_ofNat_of_lt' (by show _ < 256; omega)
    have whole : before ++ (encode (label :: labels) ++ after) =
        (before ++ UInt8.ofNat label.length :: label) ++ (encode labels ++ after) := by
      simp [encode_cons]
    have rest := ih (fun l member => proper l (by simp [member])) (before ++ UInt8.ofNat label.length :: label)
    rw [← whole, List.length_append, List.length_cons] at rest
    have read : (before ++ (encode (label :: labels) ++ after))[before.length]? = some (UInt8.ofNat label.length) := by
      simp [encode_cons]
    have inside : before.length + 1 + label.length ≤ (before ++ (encode (label :: labels) ++ after)).length := by
      simp only [whole, List.length_append, List.length_cons]
      omega
    have piece : ((before ++ (encode (label :: labels) ++ after)).drop (before.length + 1)).take label.length = label := by
      rw [whole, List.append_assoc, List.drop_append, List.drop_of_length_le (by omega), List.nil_append,
        Nat.add_sub_cancel_left, List.cons_append, List.drop_succ_cons, List.drop_zero, List.take_left]
    have step := Resolves.label read (by omega) (by omega) (by rw [size]; exact inside)
      (by rw [size, Nat.add_assoc, Nat.add_comm 1]; exact rest)
    rw [size, piece] at step
    convert step using 1
    simp only [encode_cons, List.length_cons, List.length_append]
    omega

/-- A name without pointers is the same in every slice that holds it. -/
theorem resolves_slice {message slice rest : Bytes} {start place finish : Nat} {labels : List Bytes}
    (here : message.drop start = slice ++ rest) (resolves : Resolves message 0 place labels finish) {offset next : Nat}
    (from_ : place = start + offset) (until_ : finish = start + next) (inside : next ≤ slice.length) :
    Resolves slice 0 offset labels next := by
  have byte {k : Nat} (small : k < slice.length) : message[start + k]? = slice[k]? := by
    rw [← List.getElem?_drop, here, List.getElem?_append_left small]
  generalize zero : 0 = pointers at resolves
  induction resolves generalizing offset with
  | @root place read =>
    obtain rfl : next = offset + 1 := by omega
    rw [from_, byte (by omega)] at read
    exact .root read
  | @label pointers place finish length labels read some_ short fits later ih =>
    have bounds := resolves_bounds later
    rw [from_, byte (by omega)] at read
    have tail := ih (by omega : place + 1 + length.toNat = start + (offset + 1 + length.toNat)) until_ zero
    have piece : (message.drop (place + 1)).take length.toNat = (slice.drop (offset + 1)).take length.toNat := by
      rw [from_, Nat.add_assoc, ← List.drop_drop, here, List.drop_append_of_le_length (by omega),
        List.take_append_of_le_length (by rw [List.length_drop]; omega)]
    rw [piece]
    exact .label read some_ short (by omega) tail
  | pointer => cases zero

end StbEbpf.DomainName
