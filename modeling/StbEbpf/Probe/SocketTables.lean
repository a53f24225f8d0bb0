import StbEbpf.Lib.Printf
import StbEbpf.Probe.ProcNet

/-!
The socket tables as Linux 5.4 prints them, and what `parse_proc_net_file` makes of them. The format of the probe has
no colon behind the slot number.
-/

namespace StbEbpf.Probe
open CText Access Scanf

inductive SocketTable where
  | tcp | udp
  deriving DecidableEq, Repr

def SocketTable.isTcp : SocketTable → Bool
  | tcp => true
  | udp => false

def SocketTable.slotWidth : SocketTable → Nat
  | tcp => 4
  | udp => 5

/-- A line of the table. `tail` is what the kernel prints behind the inode: reference count, address and the rest, and
the blanks up to the width of the table. -/
structure SocketRow where
  slot : UInt32
  localIp : UInt32
  localPort : UInt16
  remoteIp : UInt32
  remotePort : UInt16
  state : UInt8
  txQueue : UInt32
  rxQueue : UInt32
  timer : UInt8
  expires : UInt64
  retransmits : UInt32
  uid : UInt32
  timeout : UInt16
  inode : UInt64
  tail : Bytes
  tailFits : OnLine 256 tail

/-- The columns behind the slot number and its colon, up to the inode. -/
def SocketRow.columns (row : SocketRow) : List Bytes :=
  [ascii " ", hexPadded 8 row.localIp.toNat, ascii ":", hexPadded 4 row.localPort.toNat,
   ascii " ", hexPadded 8 row.remoteIp.toNat, ascii ":", hexPadded 4 row.remotePort.toNat,
   ascii " ", hexPadded 2 row.state.toNat,
   ascii " ", hexPadded 8 row.txQueue.toNat, ascii ":", hexPadded 8 row.rxQueue.toNat,
   ascii " ", hexPadded 2 row.timer.toNat, ascii ":", hexPadded 8 row.expires.toNat,
   ascii " ", hexPadded 8 row.retransmits.toNat, ascii " ", padded 5 row.uid.toNat,
   ascii " ", padded 8 row.timeout.toNat, ascii " ", decimal row.inode.toNat]

def SocketRow.text (table : SocketTable) (row : SocketRow) : Bytes :=
  padded table.slotWidth row.slot.toNat ++ 58 :: (row.columns.flatten ++ row.tail)

structure HeaderLine where
  text : Bytes
  fits : OnLine 1022 text

def tableContents (table : SocketTable) (header : HeaderLine) (rows : List SocketRow) : Bytes :=
  header.text ++ 10 :: (rows.flatMap fun row => row.text table ++ [10])

/-! ### Reading the lines -/

theorem columns_onLine (row : SocketRow) : ∀ column ∈ row.columns, OnLine 20 column := by
  have blank : OnLine 20 (ascii " ") := ⟨by decide, by decide⟩
  have colon : OnLine 20 (ascii ":") := ⟨by decide, by decide⟩
  have hex {width value : Nat} (narrow : width ≤ 16) (small : value < 2 ^ 64) : OnLine 20 (hexPadded width value) := by
    have fits : OnLine (max width 16) (hexPadded width value) := onLine_hexPadded (by decide) small
    exact fits.mono (by omega)
  have number {width value : Nat} (narrow : width ≤ 16) (small : value < 2 ^ 32) : OnLine 20 (padded width value) := by
    have fits : OnLine (max width 10) (padded width value) := onLine_padded (by decide) (by omega)
    exact fits.mono (by omega)
  have inode : OnLine 20 (decimal row.inode.toNat) := onLine_decimal (by decide) (by have := row.inode.toNat_lt; omega)
  have word (value : UInt32) : value.toNat < 2 ^ 64 := by have := value.toNat_lt; omega
  have half (value : UInt16) : value.toNat < 2 ^ 32 := by have := value.toNat_lt; omega
  have byte (value : UInt8) : value.toNat < 2 ^ 64 := by have := value.toNat_lt; omega
  unfold SocketRow.columns
  simp only [List.forall_mem_cons, List.not_mem_nil, false_imp_iff, implies_true, and_true]
  exact ⟨blank, hex (by decide) (word _), colon, hex (by decide) (by have := half row.localPort; omega),
    blank, hex (by decide) (word _), colon, hex (by decide) (by have := half row.remotePort; omega),
    blank, hex (by decide) (byte _), blank, hex (by decide) (word _), colon, hex (by decide) (word _),
    blank, hex (by decide) (byte _), colon, hex (by decide) row.expires.toNat_lt,
    blank, hex (by decide) (word _), blank, number (by decide) row.uid.toNat_lt,
    blank, number (by decide) (half _), blank, inode⟩

theorem text_onLine (table : SocketTable) (row : SocketRow) : OnLine 1022 (row.text table) := by
  have slot : OnLine (max table.slotWidth 10) (padded table.slotWidth row.slot.toNat) :=
    onLine_padded (by decide) (by have := row.slot.toNat_lt; omega)
  have narrow : table.slotWidth ≤ 5 := by cases table <;> decide
  have colon : OnLine 1 [58] := ⟨by decide, by decide⟩
  have columns := onLine_flatten (columns_onLine row)
  have whole := onLine_append slot (onLine_append colon (onLine_append columns row.tailFits))
  refine whole.mono ?_
  have count : row.columns.length = 26 := rfl
  omega

/-- The lines that the loop gets to see. -/
theorem socketLines_table (table : SocketTable) (header : HeaderLine) (rows : List SocketRow) :
    socketLines (tableContents table header rows) = rows.map fun row => cut (row.text table ++ [10]) := by
  have body : readLines 1023 [] (rows.flatMap fun row => row.text table ++ [10]) =
      rows.map fun row => row.text table ++ [10] := by
    induction rows with
    | nil => rfl
    | cons row rest ih =>
      obtain ⟨length, single⟩ := text_onLine table row
      rw [List.flatMap_cons, List.append_assoc, List.singleton_append,
        readLines_line _ single (by simp only [List.length_nil]; omega), ih]
      rfl
  unfold socketLines fgetsLines tableContents
  have first := header.fits.length
  rw [readLines_line _ header.fits.single (by simp only [List.length_nil]; omega), body]
  simp

/-- The scan of a line of the kernel ends at the colon behind the slot number, before anything is stored. -/
theorem row_stores_nothing (table : SocketTable) (row : SocketRow) :
    sscanf (cut (row.text table ++ [10])) socketFormat = {} := by
  have slot : 0 ∉ padded table.slotWidth row.slot.toNat := by
    intro member
    rcases List.mem_append.mp member with blank | digit
    · exact absurd (List.eq_of_mem_replicate blank) (by decide)
    · exact decimal_noNul _ digit
  have kept : cut (row.text table ++ [10]) =
      padded table.slotWidth row.slot.toNat ++ 58 :: cut (row.columns.flatten ++ row.tail ++ [10]) := by
    unfold SocketRow.text cut
    rw [List.append_assoc, List.takeWhile_append_of_pos, List.cons_append, List.takeWhile_cons_of_pos (by decide)]
    intro byte member
    simp only [bne_iff_ne, ne_eq]
    rintro rfl
    exact slot member
  rw [kept]
  exact slot_line_stores_nothing _ _ (decimal_ne_nil _) fun _ => decimal_digits

def tableFile (table : SocketTable) (header : HeaderLine) (rows : List SocketRow) (stack : Nat → Unassigned) :
    ProcFile where
  contents := some (tableContents table header rows)
  stack := stack
  ninth := by
    intro line member
    rw [Option.getD_some, socketLines_table] at member
    obtain ⟨row, -, rfl⟩ := List.mem_map.mp member
    rw [row_stores_nothing]
    exact Nat.zero_le _

theorem parseLines_skips (isTcp : Bool) (base maxEntries : Int) (lines : List Bytes)
    (skipped : ∀ line ∈ lines, scanSocket line = .ok none) (stack : Nat → Unassigned) (count : Int)
    (entries : Entries) : parseLines isTcp base maxEntries stack lines count entries = .ok (count, entries) := by
  induction lines generalizing stack with
  | nil => rfl
  | cons line rest ih =>
    unfold parseLines
    split
    · rw [skipped line List.mem_cons_self, ok_bind]
      exact ih (fun other member => skipped other (List.mem_cons_of_mem _ member)) _
    · rfl

/-- Whatever the table holds, nothing is read from it. -/
theorem tableFile_read (table : SocketTable) (header : HeaderLine) (rows : List SocketRow) (stack : Nat → Unassigned)
    (entries : Entries) (base maxEntries : Int) :
    parseProcNetFile (tableFile table header rows stack) table.isTcp entries base maxEntries = .ok (0, entries) := by
  refine parseLines_skips _ _ _ _ ?_ _ _ _
  intro line member
  rw [socketLines_table] at member
  obtain ⟨row, -, rfl⟩ := List.mem_map.mp member
  unfold scanSocket
  rw [row_stores_nothing]
  rfl

/-! ### What should be read -/

/-- The entry has the values that the row shows. -/
structure ReadAs (row : SocketRow) (entry : ProcNetEntry) : Prop where
  localIp : entry.localIp = row.localIp
  localPort : entry.localPort = row.localPort
  remoteIp : entry.remoteIp = row.remoteIp
  remotePort : entry.remotePort = row.remotePort
  state : entry.state = row.state
  txQueue : entry.txQueue.toNat = row.txQueue.toNat
  rxQueue : entry.rxQueue.toNat = row.rxQueue.toNat
  uid : entry.uid = row.uid
  inode : entry.inode.toNat = row.inode.toNat

/-- One entry for each row up to `maxEntries`, in order. -/
def RowsRead (rows : List SocketRow) (base maxEntries : Int) (result : Checked (Int × Entries)) : Prop :=
  ∃ entries, result = .ok (((min rows.length maxEntries.toNat : Nat) : Int), entries) ∧
    ∀ i row, i < maxEntries.toNat → rows[i]? = some row →
      ∃ entry, entries.toList[(base + i).toNat]? = some entry ∧ ReadAs row entry

/-- A table is read as it should be exactly when there is nothing to read or no room for it. -/
theorem rows_read_iff (table : SocketTable) (header : HeaderLine) (rows : List SocketRow) (stack : Nat → Unassigned)
    (entries : Entries) (base maxEntries : Int) :
    RowsRead rows base maxEntries
        (parseProcNetFile (tableFile table header rows stack) table.isTcp entries base maxEntries) ↔
      rows = [] ∨ maxEntries ≤ 0 := by
  rw [tableFile_read]
  constructor
  · rintro ⟨entries', same, -⟩
    have none_ : (0 : Int) = ((min rows.length maxEntries.toNat : Nat) : Int) := congrArg Prod.fst (Except.ok.inj same)
    rw [← List.length_eq_zero_iff]
    omega
  · intro nothing
    have few : min rows.length maxEntries.toNat = 0 := by
      rw [← List.length_eq_zero_iff] at nothing
      omega
    refine ⟨entries, by rw [few]; rfl, ?_⟩
    intro i row room present
    have inside := (List.getElem?_eq_some_iff.mp present).1
    omega

/-- A listening socket on port 80. -/
def listening : SocketRow where
  slot := 0
  localIp := 0x0100007F
  localPort := 80
  remoteIp := 0
  remotePort := 0
  state := 10
  txQueue := 0
  rxQueue := 0
  timer := 0
  expires := 0
  retransmits := 0
  uid := 0
  timeout := 0
  inode := 12345
  tail := ascii " 1 0000000000000000 100 0 0 10 0"
  tailFits := ⟨by decide, by decide⟩

def tableHeader : HeaderLine where
  text := ascii "  sl  local_address rem_address   st tx_queue rx_queue tr tm->when retrnsmt   uid  timeout inode"
  fits := ⟨by decide, by decide⟩

def noEntries : Entries := Vector.replicate MAX_FLOWS ⟨0, 0, 0, 0, 0, 0, 0, 0, 0, 0, 0⟩

theorem listening_socket_not_read :
    ¬ RowsRead [listening] 0 1024
      (parseProcNetFile (tableFile .tcp tableHeader [listening] fun _ => ⟨0, 0, 0, 0⟩) SocketTable.tcp.isTcp
        noEntries 0 1024) := by
  rintro ⟨entries, same, -⟩
  rw [tableFile_read] at same
  have one : (0 : Int) = 1 := congrArg Prod.fst (Except.ok.inj same)
  exact absurd one (by decide)

-- The line is the one that Linux prints.
example : listening.text .tcp = ascii ("   0: 0100007F:0050 00000000:0000 0A 00000000:00000000 00:00000000 00000000" ++
    "     0        0 12345 1 0000000000000000 100 0 0 10 0") := by decide +kernel

end StbEbpf.Probe
