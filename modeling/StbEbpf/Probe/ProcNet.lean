import StbEbpf.Lib.Scanf
import StbEbpf.Probe.Common

/-!
The socket tables of `src/proc_net.c`: the four files under `/proc/net` are read one after another into one array.
Every store is checked against the array.
-/

namespace StbEbpf.Probe
open CText Access Scanf

/-- The format `" %*d %x:%x %x:%x %x %x:%x %*x:%x %*x %*d %*d %u %u"`. -/
def socketFormat : List Directive :=
  [.space, .integer .decimal false, .space, hex, .literal 58, hex, .space, hex, .literal 58, hex, .space, hex,
    .space, hex, .literal 58, hex, .space, .integer .hexadecimal false, .literal 58, hex, .space,
    .integer .hexadecimal false, .space, .integer .decimal false, .space, .integer .decimal false,
    .space, .integer .decimal true, .space, .integer .decimal true]
where
  hex : Directive := .integer .hexadecimal true

/-- The locals of the loop that a short line leaves unassigned, with whatever the stack holds. -/
structure Unassigned where
  rxq : UInt32
  txq : UInt32
  uid : UInt32
  inode : UInt32

-- The format has ten conversions that store, the call passes nine pointers: a line that reaches the tenth is stored
-- through an argument that is not there.
def scanSocket (line : Bytes) : Checked (Option Scan) :=
  let scanned := sscanf line socketFormat
  if scanned.values.length > 9 then throw .write
  else if scanned.ret < 5 then pure none
  else pure (some scanned)

def fillEntry (isTcp : Bool) (stack : Unassigned) (scanned : Scan) (slot : ProcNetEntry) : ProcNetEntry :=
  { slot with
    localIp := scanned.stored 0 0
    localPort := (scanned.stored 1 0).toUInt16
    remoteIp := scanned.stored 2 0
    remotePort := (scanned.stored 3 0).toUInt16
    state := (scanned.stored 4 0).toUInt8
    rxQueue := (scanned.stored 5 stack.rxq).toUInt64
    txQueue := (scanned.stored 6 stack.txq).toUInt64
    uid := scanned.stored 7 stack.uid
    inode := scanned.stored 8 stack.inode
    protocol := if isTcp then 6 else 17 }

/-- The array `entries[MAX_FLOWS]` of `main`. -/
abbrev Entries := Vector ProcNetEntry MAX_FLOWS

def storeEntry (entries : Entries) (i : Int) (fill : ProcNetEntry → ProcNetEntry) : Checked Entries :=
  if inside : 0 ≤ i ∧ i.toNat < MAX_FLOWS then
    have index := inside.2
    pure (entries.set i.toNat (fill entries[i.toNat]))
  else throw .write

/-- `entries` points into the array at `base`. -/
def parseLines (isTcp : Bool) (base maxEntries : Int) (stack : Nat → Unassigned) :
    List Bytes → Int → Entries → Checked (Int × Entries)
  | [], count, entries => pure (count, entries)
  | line :: rest, count, entries =>
    if count < maxEntries then do
      match ← scanSocket line with
      | none => parseLines isTcp base maxEntries (fun i => stack (i + 1)) rest count entries
      | some scanned =>
        let entries ← storeEntry entries (base + count) (fillEntry isTcp (stack 0) scanned)
        parseLines isTcp base maxEntries (fun i => stack (i + 1)) rest (count + 1) entries
    else pure (count, entries)

/-- The lines behind the header line. -/
def socketLines (contents : Bytes) : List Bytes := (fgetsLines 1024 contents).tail

/-- One file under `/proc/net`, if it can be opened. No line of it reaches the tenth conversion: the kernel prints a
colon behind the slot number, and there the scan ends (`slot_line_stores_nothing`). -/
structure ProcFile where
  contents : Option Bytes
  stack : Nat → Unassigned
  ninth : ∀ line ∈ socketLines (contents.getD []), (sscanf line socketFormat).values.length ≤ 9

def parseProcNetFile (file : ProcFile) (isTcp : Bool) (entries : Entries) (base maxEntries : Int) :
    Checked (Int × Entries) :=
  match file.contents with
  | none => pure (0, entries)
  | some contents => parseLines isTcp base maxEntries file.stack (socketLines contents) 0 entries

structure ProcFiles where
  tcp : ProcFile
  udp : ProcFile
  tcp6 : ProcFile
  udp6 : ProcFile

def procNetReadTcp (files : ProcFiles) := parseProcNetFile files.tcp true

def procNetReadUdp (files : ProcFiles) := parseProcNetFile files.udp false

def procNetReadTcp6 (files : ProcFiles) := parseProcNetFile files.tcp6 true

def procNetReadUdp6 (files : ProcFiles) := parseProcNetFile files.udp6 false

/-! ### The poll of `main` -/

def QUARTER : Int := MAX_FLOWS / 4

/-- What the TCP sockets leave of their quarter. -/
def remaining (tcp : Int) : Int := QUARTER - if tcp < QUARTER then tcp else QUARTER

structure ProcPoll where
  tcp4 : Int
  udp4 : Int
  tcp6 : Int
  udp6 : Int
  entries : Entries

def ProcPoll.totalEntries (poll : ProcPoll) : Int :=
  let total := poll.tcp4 + poll.udp4 + poll.tcp6 + poll.udp6
  if total > MAX_FLOWS then MAX_FLOWS else total

/-- The entries that `flow_tracker_update` goes through. -/
def ProcPoll.found (poll : ProcPoll) : List ProcNetEntry := poll.entries.toList.take poll.totalEntries.toNat

def pollProcNet (files : ProcFiles) (entries : Entries) : Checked ProcPoll := do
  let (tcp4, entries) ← procNetReadTcp files entries 0 QUARTER
  let (udp4, entries) ← procNetReadUdp files entries tcp4 (remaining tcp4)
  let (tcp6, entries) ← procNetReadTcp6 files entries (tcp4 + udp4) QUARTER
  let (udp6, entries) ← procNetReadUdp6 files entries (tcp4 + udp4 + tcp6) (remaining tcp6)
  return { tcp4, udp4, tcp6, udp6, entries }

/-! ### Lines of the kernel -/

/-- The scan of a line that starts with its slot number and a colon ends at that colon. -/
theorem slot_line_stores_nothing (pad : Nat) {slot : Bytes} (rest : Bytes) (some_ : slot ≠ [])
    (digits : ∀ byte ∈ slot, isDigit byte = true) :
    sscanf (List.replicate pad 32 ++ slot ++ 58 :: rest) socketFormat = {} := by
  obtain ⟨first, more, rfl⟩ := List.exists_cons_of_ne_nil some_
  have visible := isSpace_digit (digits first List.mem_cons_self)
  have skipped : (List.replicate pad 32 ++ first :: more ++ 58 :: rest).dropWhile isSpace =
      first :: more ++ 58 :: rest := by
    rw [List.append_assoc, List.dropWhile_append_of_pos (by simp [isSpace])]
    exact List.dropWhile_cons_of_neg (by rw [visible]; exact Bool.false_ne_true)
  have kept : (first :: more ++ 58 :: rest).dropWhile isSpace = first :: more ++ 58 :: rest :=
    List.dropWhile_cons_of_neg (by rw [visible]; exact Bool.false_ne_true)
  have colon : Base.decimal.digit 58 = none := rfl
  obtain ⟨value, number⟩ := number_digits rest some_ digits colon
  have stops : Base.hexadecimal.number (58 :: rest) = none := number_none (by decide) (by decide) (by decide) rfl
  unfold sscanf socketFormat
  rw [scan, skipped, scan, kept]
  rw [List.cons_append] at number ⊢
  dsimp only
  rw [number]
  have ahead : (58 :: rest).dropWhile isSpace = 58 :: rest := List.dropWhile_cons_of_neg (by decide)
  dsimp only
  rw [scan, ahead, socketFormat.hex, scan, ahead]
  dsimp only
  rw [stops]
  rfl

/-! ### Bounds -/

theorem storeEntry_safe (entries : Entries) {i : Int} (fill : ProcNetEntry → ProcNetEntry) (start : 0 ≤ i)
    (inside : i < MAX_FLOWS) : Completes (storeEntry entries i fill) := by
  have index : i.toNat < MAX_FLOWS := by omega
  unfold storeEntry
  rw [dif_pos ⟨start, index⟩]
  exact completes_pure _

theorem scanSocket_completes {line : Bytes} (ninth : (sscanf line socketFormat).values.length ≤ 9) :
    Completes (scanSocket line) := by
  unfold scanSocket
  dsimp only
  rw [if_neg (by omega)]
  split <;> exact completes_pure _

section
variable {base maxEntries : Int}

/-- A read that is given a capacity of the array behind `base` stays inside and fills no more than that. -/
theorem parseLines_safe (isTcp : Bool) (start : 0 ≤ base) (inside : base + maxEntries ≤ MAX_FLOWS) (lines : List Bytes)
    (ninth : ∀ line ∈ lines, (sscanf line socketFormat).values.length ≤ 9) (stack : Nat → Unassigned) {count : Int}
    (counted : 0 ≤ count ∧ count ≤ maxEntries) (entries : Entries) :
    Safe (parseLines isTcp base maxEntries stack lines count entries)
      (fun read => 0 ≤ read.1 ∧ read.1 ≤ maxEntries) := by
  induction lines generalizing stack count entries with
  | nil => exact safe_pure counted
  | cons line rest ih =>
    have later := ih fun other member => ninth other (List.mem_cons_of_mem _ member)
    unfold parseLines
    split
    · rename_i room
      apply safe_bind (scanSocket_completes (ninth line List.mem_cons_self))
      rintro (_ | scanned) -
      · exact later _ counted entries
      · apply safe_bind (storeEntry_safe entries _ (by omega) (by omega))
        intro stored _
        exact later _ (by omega) stored
    · exact safe_pure counted

theorem parseProcNetFile_safe (file : ProcFile) (isTcp : Bool) (start : 0 ≤ base)
    (inside : base + maxEntries ≤ MAX_FLOWS) (capacity : 0 ≤ maxEntries) (entries : Entries) :
    Safe (parseProcNetFile file isTcp entries base maxEntries) (fun read => 0 ≤ read.1 ∧ read.1 ≤ maxEntries) := by
  obtain ⟨contents, stack, ninth⟩ := file
  cases contents with
  | none => exact safe_pure ⟨Int.le_refl 0, capacity⟩
  | some contents => exact parseLines_safe isTcp start inside _ ninth stack ⟨Int.le_refl 0, capacity⟩ entries

end

theorem remaining_range {tcp : Int} (most : tcp ≤ QUARTER) : remaining tcp = QUARTER - tcp := by
  unfold remaining
  split <;> omega

/-- What a poll leaves: every pair of files keeps to its two quarters of the array. -/
structure ProcPoll.Fits (poll : ProcPoll) : Prop where
  tcp4 : 0 ≤ poll.tcp4
  udp4 : 0 ≤ poll.udp4 ∧ poll.tcp4 + poll.udp4 ≤ QUARTER
  tcp6 : 0 ≤ poll.tcp6
  udp6 : 0 ≤ poll.udp6 ∧ poll.tcp6 + poll.udp6 ≤ QUARTER

theorem pollProcNet_fits (files : ProcFiles) (entries : Entries) : Safe (pollProcNet files entries) ProcPoll.Fits := by
  have quarter : QUARTER = 1024 := rfl
  have whole : (MAX_FLOWS : Int) = 4096 := rfl
  apply safe_bind (parseProcNetFile_safe files.tcp true (Int.le_refl 0) (by omega) (by omega) entries)
  rintro ⟨tcp4, entries⟩ tcp
  dsimp only at tcp ⊢
  have left := remaining_range tcp.2
  apply safe_bind (parseProcNetFile_safe files.udp false tcp.1 (by omega) (by omega) entries)
  rintro ⟨udp4, entries⟩ udp
  dsimp only at udp ⊢
  apply safe_bind (parseProcNetFile_safe files.tcp6 true (by omega) (by omega) (by omega) entries)
  rintro ⟨tcp6, entries⟩ six
  dsimp only at six ⊢
  have left6 := remaining_range six.2
  apply safe_bind (parseProcNetFile_safe files.udp6 false (by omega) (by omega) (by omega) entries)
  rintro ⟨udp6, entries⟩ last
  dsimp only at last ⊢
  exact safe_pure ⟨tcp.1, ⟨udp.1, by dsimp only; omega⟩, six.1, ⟨last.1, by dsimp only; omega⟩⟩

theorem ProcPoll.Fits.found_length {poll : ProcPoll} (fits : poll.Fits) : poll.found.length ≤ MAX_FLOWS / 2 := by
  obtain ⟨tcp4, udp4, tcp6, udp6⟩ := fits
  have quarter : QUARTER = 1024 := rfl
  have half : MAX_FLOWS / 2 = 2048 := rfl
  have total : poll.totalEntries ≤ 2048 := by
    unfold totalEntries
    dsimp only
    split <;> omega
  unfold found
  rw [List.length_take]
  omega

end StbEbpf.Probe
