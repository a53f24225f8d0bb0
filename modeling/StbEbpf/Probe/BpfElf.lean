import StbEbpf.Lib.CStrings
import StbEbpf.Lib.Stdio

/-!
`parse_bpf_elf` of `src/bpf_loader.c`: the headers of the object file are read with seeks and reads from one field to the
next, and the first program section found is loaded. `ElfFile` has the same file by the offsets of the ELF64 layout.
-/

namespace StbEbpf.Probe.BpfElf
open CText Access Stdio Words

structure ElfHeader where
  shoff : Nat
  shentsize : Nat
  shnum : Nat
  shstrndx : Nat

structure SectionHeader where
  name : Nat
  type : Nat
  offset : Nat
  size : Nat

structure ElfBpfProg where
  insns : Bytes
  insnCnt : Int
  deriving DecidableEq

/-! ### The parser -/

/-- An `int` product that is added to an `uint64_t`. -/
def addInt (offset first second : Nat) : Int := (offset + (first * second : Int).bmod (2 ^ 32)) % 2 ^ 64

/-- The first 16 bytes: the magic number, `ELFCLASS64` and `ELFDATA2LSB`. -/
def identAccepted (ident : Bytes) : Bool := ident.length = 16 ∧ ident.take 6 = [127, 69, 76, 70, 2, 1]

def readHeader (bits : Nat) (file : Bytes) : Reading ElfHeader := do
  fseekSet bits 16
  let _type ← fread file 2
  let _machine ← fread file 2
  fseekCur (4 + 8 + 8)
  let shoff ← freadWord file 8
  fseekCur (4 + 2 + 2 + 2)
  let shentsize ← freadWord file 2
  let shnum ← freadWord file 2
  let shstrndx ← freadWord file 2
  return ⟨shoff, shentsize, shnum, shstrndx⟩

def readSection (bits : Nat) (file : Bytes) (elf : ElfHeader) (i : Nat) : Reading SectionHeader := do
  fseekSet bits (addInt elf.shoff i elf.shentsize)
  let name ← freadWord file 4
  let type ← freadWord file 4
  fseekCur (8 + 8)
  let offset ← freadWord file 8
  let size ← freadWord file 8
  return ⟨name, type, offset, size⟩

/-- What lands in `name[32]` before its last byte; the array was zeroed. -/
def readName (bits : Nat) (file : Bytes) (elf : ElfHeader) (sh : SectionHeader) : Reading Bytes := do
  fseekSet bits ((addInt elf.shoff elf.shstrndx elf.shentsize + 24) % 2 ^ 64)
  let strOff ← freadWord file 8
  fseekSet bits ((strOff + sh.name : Int) % 2 ^ 64)
  let name ← fread file 31
  return cut name

/-- `strstr(name, "text") || strstr(name, "socket")`. -/
def namesProgram (name : Bytes) : Bool := ascii "text" <:+: name ∨ ascii "socket" <:+: name

/-- `malloc`, `fread` of the section and the print of its first eight bytes. -/
def load (bits : Nat) (malloc : Nat → Bool) (file : Bytes) (sh : SectionHeader) : Reading (Option ElfBpfProg) := do
  if malloc (sh.size % 2 ^ bits) then
    fseekSet bits sh.offset
    let insns ← fread file (sh.size % 2 ^ bits)
    if insns.length = sh.size then
      let _first ← readRange insns 0 8
      return some ⟨insns, (sh.size / 8 : Int).bmod (2 ^ 32)⟩
    else return none
  else return none

/-- The loop over the section headers, with `remaining` of them still to come. -/
def findProgram (bits : Nat) (malloc : Nat → Bool) (file : Bytes) (elf : ElfHeader) :
    Nat → Nat → Reading (Option ElfBpfProg)
  | 0, _ => return none
  | remaining + 1, i => do
    let sh ← readSection bits file elf i
    if sh.type = 1 ∧ 0 < sh.size then
      let name ← readName bits file elf sh
      if namesProgram name then load bits malloc file sh
      else findProgram bits malloc file elf remaining (i + 1)
    else findProgram bits malloc file elf remaining (i + 1)

def parse (bits : Nat) (malloc : Nat → Bool) (file : Bytes) : Reading (Option ElfBpfProg) := do
  let ident ← fread file 16
  if identAccepted ident then
    let elf ← readHeader bits file
    findProgram bits malloc file elf elf.shnum 0
  else return none

/-- The box has a `long` of 32 bits, the host build one of 64. -/
inductive DataModel where
  | ilp32 | lp64

def DataModel.longBits : DataModel → Nat
  | ilp32 => 32
  | lp64 => 64

/-- `none` stands for the return value -1. -/
def parseBpfElf (model : DataModel) (malloc : Nat → Bool) (path : Bytes) : Checked (Option ElfBpfProg) :=
  match fopen model.longBits path with
  | none => return none
  | some file => do
    let (prog, _) ← parse model.longBits malloc file 0
    return prog

/-! ### The file -/

namespace ElfFile
variable (file : Bytes)

def header : ElfHeader := ⟨field file 40 8, field file 58 2, field file 60 2, field file 62 2⟩

def sectionAt (i : Nat) : SectionHeader :=
  let start := (header file).shoff + i * (header file).shentsize
  ⟨field file start 4, field file (start + 4) 4, field file (start + 24) 8, field file (start + 32) 8⟩

def sections : List SectionHeader := (List.range (header file).shnum).map (sectionAt file)

def stringTable : Bytes :=
  slice file (sectionAt file (header file).shstrndx).offset (sectionAt file (header file).shstrndx).size

def nameOf (sh : SectionHeader) : Bytes := cut ((stringTable file).drop sh.name)

/-- `SHT_PROGBITS` is 1. -/
def isProgram (sh : SectionHeader) : Bool := sh.type = 1 ∧ 0 < sh.size ∧ namesProgram ((nameOf file sh).take 31)

def program : Option SectionHeader := (sections file).find? (isProgram file)

/-- A little-endian ELF64 object whose tables and contents lie inside the file. -/
structure WellFormed : Prop where
  ident : file.take 6 = [127, 69, 76, 70, 2, 1]
  header_inside : 64 ≤ file.length
  entries : 64 ≤ (header file).shentsize
  table_inside : (header file).shoff + (header file).shnum * (header file).shentsize ≤ file.length
  table_small : (header file).shnum * (header file).shentsize < 2 ^ 31
  strings : 0 < (header file).shnum → (header file).shstrndx < (header file).shnum
  strings_inside : 0 < (header file).shnum →
    (sectionAt file (header file).shstrndx).offset + (sectionAt file (header file).shstrndx).size ≤ file.length
  names : ∀ sh ∈ sections file, sh.type = 1 → 0 ∈ (stringTable file).drop sh.name
  contents : ∀ sh ∈ sections file, sh.type = 1 → sh.offset + sh.size ≤ file.length
  code : ∀ sh ∈ sections file, isProgram file sh → 8 ∣ sh.size

end ElfFile

/-! ### The parser finds the fields -/

theorem addInt_eq {offset first second : Nat} (product : first * second < 2 ^ 31) (sum : offset + first * second < 2 ^ 64) :
    addInt offset first second = (offset + first * second : Nat) := by
  have exact_ : ((first : Int) * second).bmod (2 ^ 32) = (first * second : Nat) := by
    have small : first * second < 2 ^ (32 - 1) := product
    rw [← Nat.cast_mul]
    exact bmod_long small
  unfold addInt
  rw [exact_]
  omega

section
variable {file : Bytes} {bits : Nat}

open ElfFile

/-- The terminator stands in the table, so that the name is the same in the file. -/
theorem nameOf_eq {sh : SectionHeader} (terminated : 0 ∈ (stringTable file).drop sh.name) :
    nameOf file sh = cut (file.drop ((sectionAt file (header file).shstrndx).offset + sh.name)) := by
  unfold nameOf
  rw [← List.drop_drop, ← cut_append terminated, stringTable, slice, List.drop_take]
  exact congrArg cut (List.take_append_drop _ _)

theorem readHeader_run (large : 64 ≤ file.length) (opened : file.length < 2 ^ (bits - 1)) (position : Nat) :
    readHeader bits file position = .ok (header file, 64) := by
  have start : fseekSet bits 16 position = .ok ((), 16) := run_fseekSet (by omega : 16 < 2 ^ (bits - 1))
  unfold readHeader
  rw [run_bind start, run_bind (run_fread (by omega)), run_bind (run_fread (by omega)),
    run_bind rfl, run_bind (run_freadWord (by omega)), run_bind rfl, run_bind (run_freadWord (by omega)),
    run_bind (run_freadWord (by omega)), run_bind (run_freadWord (by omega))]
  rfl

/-- What is returned for a program section. -/
def loaded (malloc : Nat → Bool) (file : Bytes) (sh : SectionHeader) : Option ElfBpfProg :=
  if malloc sh.size then some ⟨slice file sh.offset sh.size, (sh.size / 8 : Int).bmod (2 ^ 32)⟩ else none

theorem load_run {sh : SectionHeader} (opened : file.length < 2 ^ (bits - 1)) (inside : sh.offset + sh.size ≤ file.length)
    (enough : 8 ≤ sh.size) (malloc : Nat → Bool) (position : Nat) :
    ∃ after, load bits malloc file sh position = .ok (loaded malloc file sh, after) := by
  have wide : 2 ^ (bits - 1) ≤ 2 ^ bits := Nat.pow_le_pow_right (by decide) (Nat.sub_le bits 1)
  have whole : sh.size % 2 ^ bits = sh.size := Nat.mod_eq_of_lt (by omega)
  unfold load loaded
  rw [whole]
  cases malloc sh.size with
  | false => exact ⟨position, rfl⟩
  | true =>
    have length := slice_length inside
    have first : readRange (slice file sh.offset sh.size) 0 8 = .ok ((slice file sh.offset sh.size).take 8) :=
      if_pos (by omega)
    have printed : (readRange (slice file sh.offset sh.size) 0 8 : Reading Bytes) (sh.offset + sh.size) =
        .ok ((slice file sh.offset sh.size).take 8, sh.offset + sh.size) := by
      rw [first]
      rfl
    rw [if_pos rfl, if_pos rfl, run_bind (run_fseekSet (by omega)), run_bind (run_fread inside), if_pos length,
      run_bind printed]
    exact ⟨_, rfl⟩

variable (wellFormed : WellFormed file) (opened : file.length < 2 ^ (bits - 1)) (addressable : file.length < 2 ^ 63)

include wellFormed

theorem section_inside {i : Nat} (listed : i < (header file).shnum) :
    (header file).shoff + i * (header file).shentsize + 64 ≤ file.length ∧ i * (header file).shentsize + 64 < 2 ^ 31 := by
  have entries := wellFormed.entries
  have inside := wellFormed.table_inside
  have small := wellFormed.table_small
  have next : (i + 1) * (header file).shentsize ≤ (header file).shnum * (header file).shentsize :=
    Nat.mul_le_mul_right _ listed
  rw [Nat.add_mul, Nat.one_mul] at next
  omega

include opened addressable

theorem readSection_run {i : Nat} (listed : i < (header file).shnum) (position : Nat) :
    readSection bits file (header file) i position =
      .ok (sectionAt file i, (header file).shoff + i * (header file).shentsize + 40) := by
  obtain ⟨inside, small⟩ := section_inside wellFormed listed
  unfold readSection
  rw [addInt_eq (by omega) (by omega), run_bind (run_fseekSet (by omega)), run_bind (run_freadWord (by omega)),
    run_bind (run_freadWord (by omega)), run_bind rfl, run_bind (run_freadWord (by omega)),
    run_bind (run_freadWord (by omega))]
  rfl

theorem readName_run {sh : SectionHeader} (listed : sh ∈ sections file) (progbits : sh.type = 1) (position : Nat) :
    ∃ after, readName bits file (header file) sh position = .ok ((nameOf file sh).take 31, after) := by
  obtain ⟨i, member, -⟩ := List.mem_map.mp listed
  have some_ : 0 < (header file).shnum := by
    have := List.mem_range.mp member
    omega
  obtain ⟨inside, small⟩ := section_inside wellFormed (wellFormed.strings some_)
  have table := wellFormed.strings_inside some_
  have terminated := wellFormed.names sh listed progbits
  have shorter : sh.name < (sectionAt file (header file).shstrndx).size := by
    have positive := List.length_pos_of_mem terminated
    rw [List.length_drop, stringTable, slice_length table] at positive
    omega
  have offsetSeek : (header file).shoff + (header file).shstrndx * (header file).shentsize + 24 < 2 ^ (bits - 1) := by
    omega
  have offsetRead : (header file).shoff + (header file).shstrndx * (header file).shentsize + 24 + 8 ≤ file.length := by
    omega
  have nameSeek : (sectionAt file (header file).shstrndx).offset + sh.name < 2 ^ (bits - 1) := by omega
  have toOffset : (addInt (header file).shoff (header file).shstrndx (header file).shentsize + 24) % 2 ^ 64 =
      ((header file).shoff + (header file).shstrndx * (header file).shentsize + 24 : Nat) := by
    rw [addInt_eq (by omega) (by omega)]
    omega
  have toName : ((sectionAt file (header file).shstrndx).offset + sh.name : Int) % 2 ^ 64 =
      ((sectionAt file (header file).shstrndx).offset + sh.name : Nat) := by
    omega
  unfold readName
  rw [toOffset, run_bind (run_fseekSet offsetSeek), run_bind (run_freadWord offsetRead)]
  change ∃ after, (fseekSet bits (((sectionAt file (header file).shstrndx).offset + sh.name : Int) % 2 ^ 64) >>= _) _ = _
  rw [toName, run_bind (run_fseekSet nameSeek), run_bind rfl]
  refine ⟨_, congrArg (fun name => Except.ok (name, _)) ?_⟩
  rw [cut_take, nameOf_eq terminated]

theorem findProgram_run (malloc : Nat → Bool) {remaining i : Nat} (listed : i + remaining = (header file).shnum)
    (position : Nat) :
    ∃ after, findProgram bits malloc file (header file) remaining i position =
      .ok ((((List.range' i remaining).map (sectionAt file)).find? (isProgram file)).bind (loaded malloc file), after) := by
  -- the position is generalised: wherever the last read ended, the next header is sought from the start of the file
  induction remaining generalizing i position with
  | zero => exact ⟨position, rfl⟩
  | succ remaining ih =>
    have member : sectionAt file i ∈ sections file :=
      List.mem_map.mpr ⟨i, List.mem_range.mpr (by omega), rfl⟩
    have later := ih (i := i + 1) (by omega)
    rw [findProgram, run_bind (readSection_run wellFormed opened addressable (by omega) position), List.range'_succ,
      List.map_cons]
    by_cases candidate : (sectionAt file i).type = 1 ∧ 0 < (sectionAt file i).size
    · obtain ⟨progbits, filled⟩ := candidate
      obtain ⟨after, name⟩ := readName_run wellFormed opened addressable member progbits
        ((header file).shoff + i * (header file).shentsize + 40)
      rw [if_pos ⟨progbits, filled⟩, run_bind name]
      by_cases named : namesProgram ((nameOf file (sectionAt file i)).take 31)
      · have program : isProgram file (sectionAt file i) := decide_eq_true ⟨progbits, filled, named⟩
        obtain ⟨k, size⟩ := wellFormed.code _ member program
        rw [if_pos named, List.find?_cons_of_pos program]
        exact load_run opened (wellFormed.contents _ member progbits) (by omega) malloc after
      · have other : ¬ isProgram file (sectionAt file i) := fun program => named (of_decide_eq_true program).2.2
        rw [if_neg named, List.find?_cons_of_neg other]
        exact later after
    · have other : ¬ isProgram file (sectionAt file i) := by
        intro program
        obtain ⟨progbits, filled, -⟩ := of_decide_eq_true program
        exact candidate ⟨progbits, filled⟩
      rw [if_neg candidate, List.find?_cons_of_neg other]
      exact later _

theorem parse_run (malloc : Nat → Bool) :
    ∃ after, parse bits malloc file 0 = .ok ((program file).bind (loaded malloc file), after) := by
  have large := wellFormed.header_inside
  have accepted : identAccepted (slice file 0 16) := by
    apply decide_eq_true
    refine ⟨slice_length (by omega), ?_⟩
    rw [slice, List.drop_zero, List.take_take]
    exact wellFormed.ident
  unfold parse
  rw [run_bind (run_fread (by omega)), if_pos accepted, run_bind (readHeader_run large opened _), program, sections,
    List.range_eq_range']
  exact findProgram_run wellFormed opened addressable malloc (Nat.zero_add _) _

end

/-! ### The result -/

open ElfFile

/-- The contents of the first program section are returned, with the number of their instructions. -/
def Extracts (model : DataModel) (malloc : Nat → Bool) (file : Bytes) : Prop :=
  parseBpfElf model malloc file = .ok ((program file).map fun sh => ⟨slice file sh.offset sh.size, (sh.size / 8 : Nat)⟩)

theorem parseBpfElf_eq {file : Bytes} (wellFormed : WellFormed file) (model : DataModel) (malloc : Nat → Bool) :
    parseBpfElf model malloc file =
      .ok (if file.length < 2 ^ (model.longBits - 1) then (program file).bind (loaded malloc file) else none) := by
  unfold parseBpfElf fopen
  by_cases opened : file.length < 2 ^ (model.longBits - 1)
  · have addressable : file.length < 2 ^ 63 := by
      have limit : 2 ^ (model.longBits - 1) ≤ 2 ^ 63 := by cases model <;> decide
      omega
    obtain ⟨after, ends⟩ := parse_run wellFormed opened addressable malloc
    rw [if_pos opened, if_pos opened]
    dsimp only
    rw [ends]
    rfl
  · rw [if_neg opened, if_neg opened]
    rfl

theorem count_exact_iff (size : Nat) : (size / 8 : Int).bmod (2 ^ 32) = (size / 8 : Nat) ↔ size < 2 ^ 34 := by
  constructor
  · intro same
    have bound := Int.bmod_lt (x := (size / 8 : Int)) (m := 2 ^ 32) (by decide)
    omega
  · intro small
    have fits : size / 8 < 2 ^ (32 - 1) := by omega
    exact bmod_long fits

theorem loaded_eq_iff (malloc : Nat → Bool) (file : Bytes) (sh : SectionHeader) :
    loaded malloc file sh = some ⟨slice file sh.offset sh.size, (sh.size / 8 : Nat)⟩ ↔
      malloc sh.size ∧ sh.size < 2 ^ 34 := by
  rw [← count_exact_iff]
  unfold loaded
  cases malloc sh.size <;> simp

theorem parse_extracts_iff (model : DataModel) (malloc : Nat → Bool) {file : Bytes} (wellFormed : WellFormed file) :
    Extracts model malloc file ↔
      ∀ sh, program file = some sh →
        file.length < 2 ^ (model.longBits - 1) ∧ malloc sh.size ∧ sh.size < 2 ^ 34 := by
  unfold Extracts
  rw [parseBpfElf_eq wellFormed, Except.ok.injEq]
  cases program file with
  | none => simp
  | some sh =>
    simp only [Option.bind_some, Option.map_some, Option.some.injEq, forall_eq']
    rw [← loaded_eq_iff malloc file sh]
    split
    · rename_i opened
      exact (and_iff_right opened).symm
    · rename_i tooLarge
      exact iff_of_false (by simp) fun both => tooLarge both.1

/-! ### Files -/

/-- An object with one program section, `.text`, of `size` zero bytes. -/
def objectParts (size : Nat) : List Bytes :=
  [[127, 69, 76, 70, 2, 1], List.replicate 34 0, leBytes 8 64, List.replicate 10 0, leBytes 2 64, leBytes 2 2, leBytes 2 1,
    leBytes 4 1, leBytes 4 1, List.replicate 16 0, leBytes 8 200, leBytes 8 size, List.replicate 24 0,
    leBytes 4 0, leBytes 4 3, List.replicate 16 0, leBytes 8 192, leBytes 8 8, List.replicate 24 0,
    [0, 46, 116, 101, 120, 116, 0, 0], List.replicate size 0]

def objectFile (size : Nat) : Bytes := (objectParts size).flatten

section
variable {size : Nat} (large : size < 256 ^ 8)

theorem objectFile_length : (objectFile size).length = 200 + size := by
  simp [objectFile, objectParts, leBytes_length]
  omega

theorem objectParts_lengths : (objectParts size).map List.length =
    [6, 34, 8, 10, 2, 2, 2, 4, 4, 16, 8, 8, 24, 4, 4, 16, 8, 8, 24, 8, size] := by
  simp [objectParts, leBytes_length]

theorem objectParts_offset (k : Nat) : offsetOf (objectParts size) k =
    ([6, 34, 8, 10, 2, 2, 2, 4, 4, 16, 8, 8, 24, 4, 4, 16, 8, 8, 24, 8, size].take k).sum := by
  rw [offsetOf, List.map_take, objectParts_lengths]

theorem objectFile_field {k offset width value : Nat} (member : (objectParts size)[k]? = some (leBytes width value))
    (start : offsetOf (objectParts size) k = offset) (small : value < 256 ^ width) :
    field (objectFile size) offset width = value := field_member member start small

theorem objectFile_header : header (objectFile size) = ⟨64, 64, 2, 1⟩ := by
  have shoff : field (objectFile size) 40 8 = 64 := objectFile_field (k := 2) rfl (by simp [objectParts_offset]) (by decide)
  have shentsize : field (objectFile size) 58 2 = 64 := objectFile_field (k := 4) rfl (by simp [objectParts_offset]) (by decide)
  have shnum : field (objectFile size) 60 2 = 2 := objectFile_field (k := 5) rfl (by simp [objectParts_offset]) (by decide)
  have shstrndx : field (objectFile size) 62 2 = 1 := objectFile_field (k := 6) rfl (by simp [objectParts_offset]) (by decide)
  rw [header, shoff, shentsize, shnum, shstrndx]

include large in
theorem objectFile_text : sectionAt (objectFile size) 0 = ⟨1, 1, 200, size⟩ := by
  have name : field (objectFile size) 64 4 = 1 := objectFile_field (k := 7) rfl (by simp [objectParts_offset]) (by decide)
  have type : field (objectFile size) 68 4 = 1 := objectFile_field (k := 8) rfl (by simp [objectParts_offset]) (by decide)
  have offset : field (objectFile size) 88 8 = 200 := objectFile_field (k := 10) rfl (by simp [objectParts_offset]) (by decide)
  have bytes : field (objectFile size) 96 8 = size := objectFile_field (k := 11) rfl (by simp [objectParts_offset]) large
  rw [sectionAt, objectFile_header]
  simp only [Nat.zero_mul, Nat.add_zero, Nat.reduceAdd, name, type, offset, bytes]

theorem objectFile_shstrtab : sectionAt (objectFile size) 1 = ⟨0, 3, 192, 8⟩ := by
  have name : field (objectFile size) 128 4 = 0 := objectFile_field (k := 13) rfl (by simp [objectParts_offset]) (by decide)
  have type : field (objectFile size) 132 4 = 3 := objectFile_field (k := 14) rfl (by simp [objectParts_offset]) (by decide)
  have offset : field (objectFile size) 152 8 = 192 := objectFile_field (k := 16) rfl (by simp [objectParts_offset]) (by decide)
  have bytes : field (objectFile size) 160 8 = 8 := objectFile_field (k := 17) rfl (by simp [objectParts_offset]) (by decide)
  rw [sectionAt, objectFile_header]
  simp only [Nat.reduceMul, Nat.reduceAdd, name, type, offset, bytes]

theorem objectFile_stringTable : stringTable (objectFile size) = [0, 46, 116, 101, 120, 116, 0, 0] := by
  have start : offsetOf (objectParts size) 19 = 192 := by simp [objectParts_offset]
  have member : (objectParts size)[19]? = some [0, 46, 116, 101, 120, 116, 0, 0] := rfl
  rw [stringTable, objectFile_header, objectFile_shstrtab]
  exact slice_member member start

theorem objectFile_sections : sections (objectFile size) = [sectionAt (objectFile size) 0, sectionAt (objectFile size) 1] := by
  rw [sections, objectFile_header]
  rfl

include large

theorem objectFile_program (filled : 0 < size) : program (objectFile size) = some ⟨1, 1, 200, size⟩ := by
  have named : namesProgram ((nameOf (objectFile size) ⟨1, 1, 200, size⟩).take 31) := by
    rw [nameOf, objectFile_stringTable]
    change namesProgram [46, 116, 101, 120, 116]
    decide +kernel
  have isText : isProgram (objectFile size) ⟨1, 1, 200, size⟩ := decide_eq_true ⟨rfl, filled, named⟩
  rw [program, objectFile_sections, objectFile_text large]
  exact List.find?_cons_of_pos isText

theorem objectFile_wellFormed (words : 8 ∣ size) : WellFormed (objectFile size) := by
  have length : (objectFile size).length = 200 + size := objectFile_length
  have listed (P : SectionHeader → Prop) (text : P ⟨1, 1, 200, size⟩) (table : P ⟨0, 3, 192, 8⟩) :
      ∀ sh ∈ sections (objectFile size), P sh := by
    rw [objectFile_sections, objectFile_text large, objectFile_shstrtab]
    simpa using ⟨text, table⟩
  constructor
  · rfl
  · omega
  · rw [objectFile_header]
  · rw [objectFile_header]
    dsimp only
    omega
  · rw [objectFile_header]
    decide
  · rw [objectFile_header]
    decide
  · rw [objectFile_header, objectFile_shstrtab]
    dsimp only
    omega
  · rw [objectFile_stringTable]
    refine listed _ (fun _ => ?_) (fun never => ?_)
    · change 0 ∈ [46, 116, 101, 120, 116, 0, 0]
      decide
    · cases never
  · refine listed _ (fun _ => ?_) (fun never => ?_)
    · dsimp only
      omega
    · cases never
  · refine listed _ (fun _ => words) (fun _ => ?_)
    exact ⟨1, rfl⟩

end

theorem small_object_extracted : WellFormed (objectFile 8) ∧ Extracts .ilp32 (fun _ => true) (objectFile 8) := by
  have wellFormed : WellFormed (objectFile 8) := objectFile_wellFormed (by decide) (by decide)
  refine ⟨wellFormed, (parse_extracts_iff .ilp32 _ wellFormed).mpr fun sh found => ?_⟩
  rw [objectFile_program (by decide) (by decide)] at found
  cases found
  rw [objectFile_length]
  decide

/-- The number of instructions of a section of 16 GiB does not fit an `int`. -/
theorem objectFile_miscounted {size : Nat} (fits : 200 + size < 2 ^ 63) (words : 8 ∣ size) (huge : 2 ^ 34 ≤ size) :
    ¬ Extracts .lp64 (fun _ => true) (objectFile size) := by
  have large : size < 256 ^ 8 := by omega
  have opened : 200 + size < 2 ^ (DataModel.lp64.longBits - 1) := fits
  unfold Extracts
  rw [parseBpfElf_eq (objectFile_wellFormed large words), objectFile_program large (by omega), objectFile_length,
    if_pos opened, Except.ok.injEq]
  intro same
  have counted := (loaded_eq_iff (fun _ => true) (objectFile size) ⟨1, 1, 200, size⟩).mp same
  exact absurd counted.2 (by dsimp only; omega)

theorem huge_object_miscounted :
    WellFormed (objectFile (2 ^ 34)) ∧ ¬ Extracts .lp64 (fun _ => true) (objectFile (2 ^ 34)) := by
  have words : 8 ∣ 2 ^ 34 := by decide
  exact ⟨objectFile_wellFormed (by decide) words, objectFile_miscounted (by decide) words (Nat.le_refl _)⟩

end StbEbpf.Probe.BpfElf
