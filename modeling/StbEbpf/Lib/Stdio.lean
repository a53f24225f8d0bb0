import StbEbpf.Lib.Access
import StbEbpf.Lib.Words

/-!
A file read through `stdio`. The state of a reading program is the position in the file; `long` and `off_t` have `bits`
bits. A word that the file does not have completely is left uninitialised by `fread`, and its use counts as a fault.
-/

namespace StbEbpf.Stdio
open CText Access Words

abbrev Reading := StateT Nat Checked

/-- A file whose size does not fit `off_t` is not opened. -/
def fopen (bits : Nat) (file : Bytes) : Option Bytes := if file.length < 2 ^ (bits - 1) then some file else none

section
variable (file : Bytes)

def fread (count : Nat) : Reading Bytes := fun position =>
  let read := (file.drop position).take count
  pure (read, position + read.length)

def freadWord (count : Nat) : Reading Nat := do
  let bytes ← fread file count
  if bytes.length = count then return leValue bytes else throw .read

/-- `SEEK_SET`. The offset is converted to `long`; if that is negative the call fails and the position stays. -/
def fseekSet (bits : Nat) (offset : Int) : Reading Unit := fun position =>
  let offset := offset.bmod (2 ^ bits)
  pure ((), if 0 ≤ offset then offset.toNat else position)

/-- `SEEK_CUR`. -/
def fseekCur (count : Nat) : Reading Unit := fun position => pure ((), position + count)

/-! ### The contents by their offsets -/

def slice (offset count : Nat) : Bytes := (file.drop offset).take count

def field (offset count : Nat) : Nat := leValue (slice file offset count)

end

section
variable {α β : Type} {file : Bytes} {position count bits : Nat}

theorem slice_length (inside : position + count ≤ file.length) : (slice file position count).length = count := by
  rw [slice, List.length_take, List.length_drop]
  omega

/-- A part of a file is found at its offset. -/
theorem slice_member {parts : List Bytes} {k offset : Nat} {part : Bytes} (member : parts[k]? = some part)
    (start : offsetOf parts k = offset) : slice parts.flatten offset part.length = part := by
  have read := readRange_member member start
  unfold readRange at read
  split at read
  · exact Except.ok.inj read
  · cases read

theorem field_member {parts : List Bytes} {k offset width value : Nat} (member : parts[k]? = some (leBytes width value))
    (start : offsetOf parts k = offset) (small : value < 256 ^ width) : field parts.flatten offset width = value := by
  have read := slice_member member start
  rw [leBytes_length] at read
  rw [field, read, leValue_of_lt small]

/-- The next step starts where the one before it ended. -/
theorem run_bind {first : Reading α} {next : α → Reading β} {value : α} {after : Nat}
    (ends : first position = .ok (value, after)) : (first >>= next) position = next value after := by
  change (first position >>= fun read => next read.1 read.2) = _
  rw [ends]
  rfl

theorem run_fread (inside : position + count ≤ file.length) :
    fread file count position = .ok (slice file position count, position + count) := by
  have length := slice_length inside
  unfold fread
  change Except.ok (slice file position count, position + (slice file position count).length) = _
  rw [length]

theorem run_freadWord (inside : position + count ≤ file.length) :
    freadWord file count position = .ok (field file position count, position + count) := by
  unfold freadWord
  rw [run_bind (run_fread inside), if_pos (slice_length inside)]
  rfl

theorem bmod_long {offset : Nat} (small : offset < 2 ^ (bits - 1)) : (offset : Int).bmod (2 ^ bits) = offset := by
  cases bits with
  | zero =>
    have zero : offset = 0 := by simpa using small
    rw [zero]
    rfl
  | succ bits =>
    rw [Nat.add_sub_cancel] at small
    have double : 2 ^ (bits + 1) = 2 * 2 ^ bits := Nat.pow_succ'
    apply Int.bmod_eq_of_le <;> omega

theorem run_fseekSet {offset : Nat} (small : offset < 2 ^ (bits - 1)) :
    fseekSet bits offset position = .ok ((), offset) := by
  unfold fseekSet
  rw [bmod_long small]
  simp
  rfl

end

end StbEbpf.Stdio
