import StbEbpf.Lib.CText

/-!
Programs whose memory accesses are checked. A region is the list of its bytes; an access outside it ends the program
with a fault, and `Safe` says that a program ends without one.
-/

namespace StbEbpf.Access
open CText

inductive Fault where
  | read | write
  | endless
  deriving DecidableEq, Repr

abbrev Checked := Except Fault

def readAt (region : Bytes) (i : Nat) : Checked UInt8 :=
  match region[i]? with
  | some byte => pure byte
  | none => throw .read

def readRange (region : Bytes) (offset count : Nat) : Checked Bytes :=
  if offset + count ≤ region.length then pure ((region.drop offset).take count) else throw .read

def writeAt (region : Bytes) (i : Nat) (byte : UInt8) : Checked Bytes :=
  if i < region.length then pure (region.set i byte) else throw .write

/-- `memcpy` to the start of a region. -/
def writeStart (region bytes : Bytes) : Checked Bytes :=
  if bytes.length ≤ region.length then pure (bytes ++ region.drop bytes.length) else throw .write

theorem ok_bind {α β : Type} (value : α) (next : α → Checked β) : ((.ok value : Checked α) >>= next) = next value := rfl

def Safe {α : Type} (m : Checked α) (Q : α → Prop) : Prop := ∃ value, m = .ok value ∧ Q value

section
variable {α β : Type} {Q : α → Prop} {P : β → Prop}

theorem safe_pure {value : α} (holds : Q value) : Safe (pure value) Q := ⟨value, rfl, holds⟩

theorem safe_bind {m : Checked α} {next : α → Checked β} (first : Safe m Q)
    (rest : ∀ value, Q value → Safe (next value) P) : Safe (m >>= next) P := by
  obtain ⟨value, rfl, holds⟩ := first
  exact rest value holds

theorem safe_weaken {m : Checked α} {R : α → Prop} (safe : Safe m Q) (weaken : ∀ value, Q value → R value) :
    Safe m R := by
  obtain ⟨value, ends, holds⟩ := safe
  exact ⟨value, ends, weaken value holds⟩

end

section
variable {region : Bytes} {i offset count : Nat}

theorem safe_readAt (inside : i < region.length) : Safe (readAt region i) (fun byte => region[i]? = some byte) := by
  refine ⟨region[i], ?_, List.getElem?_eq_getElem inside⟩
  unfold readAt
  rw [List.getElem?_eq_getElem inside]
  rfl

theorem safe_readRange (inside : offset + count ≤ region.length) :
    Safe (readRange region offset count) (fun bytes => bytes.length = count) := by
  refine ⟨(region.drop offset).take count, if_pos inside, ?_⟩
  simp only [List.length_take, List.length_drop]
  omega

theorem safe_writeAt (inside : i < region.length) (byte : UInt8) :
    Safe (writeAt region i byte) (fun out => out = region.set i byte) :=
  ⟨_, if_pos inside, rfl⟩

theorem safe_writeStart {bytes : Bytes} (inside : bytes.length ≤ region.length) :
    Safe (writeStart region bytes) (fun out => out.length = region.length) := by
  refine ⟨_, if_pos inside, ?_⟩
  simp only [List.length_append, List.length_drop]
  omega

end

theorem readAt_middle (before : Bytes) (byte : UInt8) (after : Bytes) :
    readAt (before ++ byte :: after) before.length = .ok byte := by
  unfold readAt
  rw [List.getElem?_append_right (Nat.le_refl _), Nat.sub_self]
  rfl

/-- What follows a region does not matter to a read inside it. -/
theorem readRange_append {region : Bytes} (more : Bytes) {offset count : Nat} (inside : offset + count ≤ region.length) :
    readRange (region ++ more) offset count = readRange region offset count := by
  unfold readRange
  rw [if_pos inside, if_pos (by rw [List.length_append]; omega), List.drop_append_of_le_length (by omega),
    List.take_append_of_le_length (by rw [List.length_drop]; omega)]

/-! ### What a program yields if it ends -/

def Yields {α : Type} (m : Checked α) (Q : α → Prop) : Prop := ∀ value, m = .ok value → Q value

section
variable {α β : Type} {Q : α → Prop} {P : β → Prop}

theorem yields_pure {value : α} (holds : Q value) : Yields (pure value) Q := by
  intro result same
  cases same
  exact holds

theorem yields_bind {m : Checked α} {next : α → Checked β} (rest : ∀ value, m = .ok value → Yields (next value) P) :
    Yields (m >>= next) P := by
  intro result same
  cases m with
  | error fault => cases same
  | ok value => exact rest value rfl result same

theorem yields_next {m : Checked α} {next : α → Checked β} (rest : ∀ value, Yields (next value) P) :
    Yields (m >>= next) P :=
  yields_bind fun value _ => rest value

end

/-! ### Programs that only have to end -/

def Completes {α : Type} (m : Checked α) : Prop := Safe m fun _ => True

section
variable {α β : Type}

theorem completes_pure (value : α) : Completes (pure value) := safe_pure trivial

theorem completes_bind {m : Checked α} {next : α → Checked β} (first : Completes m)
    (rest : ∀ value, Completes (next value)) : Completes (m >>= next) :=
  safe_bind first fun value _ => rest value

theorem completes_map_iff {m : Checked α} (f : α → β) : Completes (m >>= fun value => pure (f value)) ↔ Completes m := by
  refine ⟨?_, fun ends => completes_bind ends fun value => completes_pure (f value)⟩
  rintro ⟨result, ends, -⟩
  cases m with
  | error fault => cases ends
  | ok value => exact completes_pure value

theorem completes_readAt {region : Bytes} {i : Nat} (inside : i < region.length) : Completes (readAt region i) :=
  safe_weaken (safe_readAt inside) fun _ _ => trivial

theorem completes_readRange {region : Bytes} {offset count : Nat} (inside : offset + count ≤ region.length) :
    Completes (readRange region offset count) :=
  safe_weaken (safe_readRange inside) fun _ _ => trivial

theorem completes_pure_iff (value : α) : Completes (pure value : Checked α) ↔ True := iff_true_intro (completes_pure value)

theorem completes_fmap_iff {m : Checked α} (f : α → β) : Completes (f <$> m) ↔ Completes m := by
  rw [map_eq_pure_bind]
  exact completes_map_iff f

/-- A chain of reads ends exactly if each of them stays inside. -/
theorem completes_readRange_bind {region : Bytes} {offset count : Nat} {next : Bytes → Checked α} :
    Completes (readRange region offset count >>= next) ↔
      offset + count ≤ region.length ∧ Completes (next ((region.drop offset).take count)) := by
  unfold readRange
  split
  · rename_i inside
    exact (and_iff_right inside).symm
  · rename_i outside
    refine iff_of_false ?_ fun both => outside both.1
    rintro ⟨_, ends, -⟩
    cases ends

theorem completes_readAt_bind {region : Bytes} {i : Nat} {next : UInt8 → Checked α} :
    Completes (readAt region i >>= next) ↔ ∃ inside : i < region.length, Completes (next region[i]) := by
  by_cases inside : i < region.length
  · have read : readAt region i = .ok region[i] := by
      unfold readAt
      rw [List.getElem?_eq_getElem inside]
      rfl
    rw [read, ok_bind]
    exact ⟨fun ends => ⟨inside, ends⟩, fun ⟨_, ends⟩ => ends⟩
  · refine iff_of_false ?_ fun ⟨here, _⟩ => inside here
    rintro ⟨_, ends, -⟩
    unfold readAt at ends
    rw [List.getElem?_eq_none (by omega)] at ends
    cases ends

theorem completes_header {region : Bytes} {offset count : Nat} {missing : α} {found : Bytes → α} :
    Completes (if region.length < offset + count then pure missing
      else do
        let header ← readRange region offset count
        return found header) := by
  split
  · exact completes_pure _
  · exact completes_bind (completes_readRange (by omega)) fun _ => completes_pure _

end

/-! ### String functions

Each reads from its pointer on, here the rest of the region, and stops at a NUL. -/

def Terminated (text : Bytes) : Prop := 0 ∈ text

def strchr (byte : UInt8) : Bytes → Checked (Option Nat)
  | [] => throw .read
  | head :: rest =>
    if head = byte then pure (some 0)
    else if head = 0 then pure none
    else do return (← strchr byte rest).map (· + 1)

def toLower (byte : UInt8) : UInt8 := if 65 ≤ byte ∧ byte ≤ 90 then byte + 32 else byte

/-- Whether the text starts with the pattern, up to case. -/
def startsWith : Bytes → Bytes → Checked Bool
  | [], _ => pure true
  | _ :: _, [] => throw .read
  | wanted :: pattern, head :: rest =>
    if toLower head = toLower wanted then startsWith pattern rest else pure false

def strcasestr (pattern : Bytes) : Bytes → Checked (Option Nat)
  | [] => throw .read
  | head :: rest => do
    if ← startsWith pattern (head :: rest) then return some 0
    else if head = 0 then return none
    else return (← strcasestr pattern rest).map (· + 1)

/-- `while (p(*text)) text++`. -/
def skipWhile (p : UInt8 → Bool) : Bytes → Checked Bytes
  | [] => throw .read
  | head :: rest => if p head then skipWhile p rest else pure (head :: rest)

def isSpace (byte : UInt8) : Bool := byte = 32 ∨ (9 ≤ byte ∧ byte ≤ 13)

def isDigit (byte : UInt8) : Bool := 48 ≤ byte ∧ byte ≤ 57

def digits : Bytes → Nat → Checked Nat
  | [], _ => throw .read
  | head :: rest, value => if isDigit head then digits rest (value * 10 + (head.toNat - 48)) else pure value

/-- With a `long` of 32 bits, as on the target: values outside it are clamped. -/
def atoi (text : Bytes) : Checked Int := do
  let text ← skipWhile isSpace text
  let head ← readAt text 0
  let value ← digits (if head = 45 ∨ head = 43 then text.drop 1 else text) 0
  return if head = 45 then max (-2 ^ 31) (-value) else min (2 ^ 31 - 1) value

theorem terminated_tail {head : UInt8} {rest : Bytes} (terminated : Terminated (head :: rest)) (more : head ≠ 0) :
    Terminated rest := by
  rcases List.mem_cons.mp terminated with same | later
  · exact absurd same.symm more
  · exact later

theorem strchr_safe {byte : UInt8} (visible : byte ≠ 0) {text : Bytes} (terminated : Terminated text) :
    Safe (strchr byte text) (fun found => ∀ k ∈ found, k ≤ text.length ∧ Terminated (text.drop (k + 1))) := by
  induction text with
  | nil => cases terminated
  | cons head rest ih =>
    unfold strchr
    split
    · rename_i same
      refine safe_pure fun k member => ?_
      obtain rfl : 0 = k := by simpa using member
      exact ⟨Nat.zero_le _, terminated_tail terminated (same ▸ visible)⟩
    · split
      · exact safe_pure (by simp)
      · rename_i more
        refine safe_bind (ih (terminated_tail terminated more)) fun found spec => safe_pure ?_
        intro k member
        obtain ⟨j, inner, rfl⟩ := Option.map_eq_some_iff.mp member
        obtain ⟨bound, later⟩ := spec j inner
        exact ⟨by simpa using bound, by simpa using later⟩

theorem startsWith_safe {pattern : Bytes} (visible : ∀ byte ∈ pattern, toLower byte ≠ 0) {text : Bytes}
    (terminated : Terminated text) :
    Safe (startsWith pattern text) (fun found => found → Terminated (text.drop pattern.length)) := by
  induction pattern generalizing text with
  | nil => exact safe_pure fun _ => terminated
  | cons wanted pattern ih =>
    cases text with
    | nil => cases terminated
    | cons head rest =>
      unfold startsWith
      split
      · rename_i same
        have more : head ≠ 0 := by
          rintro rfl
          exact visible wanted (by simp) same.symm
        exact ih (fun byte member => visible byte (by simp [member])) (terminated_tail terminated more)
      · exact safe_pure (by simp)

theorem strcasestr_safe {pattern : Bytes} (visible : ∀ byte ∈ pattern, toLower byte ≠ 0) {text : Bytes}
    (terminated : Terminated text) :
    Safe (strcasestr pattern text) (fun found => ∀ k ∈ found, Terminated (text.drop (k + pattern.length))) := by
  induction text with
  | nil => cases terminated
  | cons head rest ih =>
    unfold strcasestr
    refine safe_bind (startsWith_safe visible terminated) fun here spec => ?_
    split
    · rename_i found
      refine safe_pure fun k member => ?_
      obtain rfl : 0 = k := by simpa using member
      simpa using spec found
    · split
      · exact safe_pure (by simp)
      · rename_i more
        refine safe_bind (ih (terminated_tail terminated more)) fun found spec => safe_pure ?_
        intro k member
        obtain ⟨j, inner, rfl⟩ := Option.map_eq_some_iff.mp member
        have later := spec j inner
        rwa [show j + 1 + pattern.length = (j + pattern.length) + 1 by omega, List.drop_succ_cons]

theorem skipWhile_safe {p : UInt8 → Bool} (stops : p 0 = false) {text : Bytes} (terminated : Terminated text) :
    Safe (skipWhile p text) Terminated := by
  induction text with
  | nil => cases terminated
  | cons head rest ih =>
    unfold skipWhile
    split
    · rename_i skipped
      refine ih (terminated_tail terminated ?_)
      rintro rfl
      simp [stops] at skipped
    · exact safe_pure terminated

theorem digits_completes {text : Bytes} (terminated : Terminated text) (value : Nat) :
    Completes (digits text value) := by
  induction text generalizing value with
  | nil => cases terminated
  | cons head rest ih =>
    unfold digits
    split
    · rename_i digit
      refine ih (terminated_tail terminated ?_) _
      rintro rfl
      exact absurd digit (by decide)
    · exact completes_pure _

theorem atoi_completes {text : Bytes} (terminated : Terminated text) : Completes (atoi text) := by
  unfold atoi
  refine safe_bind (skipWhile_safe (by decide) terminated) fun text terminated => ?_
  have inside : 0 < text.length := List.length_pos_of_mem terminated
  refine safe_bind (safe_readAt inside) fun head read => ?_
  cases text with
  | nil => cases terminated
  | cons first rest =>
    obtain rfl : first = head := by simpa using read
    have unsigned : Terminated (if first = 45 ∨ first = 43 then (first :: rest).drop 1 else first :: rest) := by
      split
      · rename_i signed
        apply terminated_tail terminated
        rintro rfl
        simp at signed
      · exact terminated
    exact completes_bind (digits_completes unsigned 0) fun _ => completes_pure _

end StbEbpf.Access
