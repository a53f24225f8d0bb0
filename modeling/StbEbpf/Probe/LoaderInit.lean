import StbEbpf.Lib.Resources
import StbEbpf.Probe.BpfElf
import StbEbpf.Probe.PerfBuffer

/-!
`bpf_loader_init` of `src/bpf_loader.c` and what `main` does with its result: the object file, the instructions read from
it and the two descriptors, from where they are acquired to where they are released.
-/

namespace StbEbpf.Probe.Loading
open Resources Perf

inductive Resource where
  | file
  | insns
  | fd (number : Nat)
  deriving DecidableEq

abbrev Log := List (Entry Resource)

abbrev Tracked := StateM Log

def acquire (resource : Resource) : Tracked Unit := modify (· ++ [.acquire resource])

def release (resource : Resource) : Tracked Unit := modify (· ++ [.release resource])

/-! ### Loading -/

/-- The ways out of `parse_bpf_elf`: there is no file; a header is refused, no section has a program or there is no
memory for it; the section is cut short; the program is read. -/
inductive ElfEnd where
  | noFile
  | refused
  | short
  | read
  deriving DecidableEq

def parseBpfElf : ElfEnd → Tracked Int
  | .noFile => return -1
  | .refused => do
    acquire .file
    release .file
    return -1
  | .short => do
    acquire .file
    acquire .insns
    release .insns
    release .file
    return -1
  | .read => do
    acquire .file
    acquire .insns
    release .file
    return 0

/-- What each way out says of the file and of the program that the reader of `BpfElf` returns. -/
def ElfEnd.Fits (file : Option CText.Bytes) (prog : Option BpfElf.ElfBpfProg) : ElfEnd → Prop
  | .noFile => file = none ∧ prog = none
  | .refused | .short => file ≠ none ∧ prog = none
  | .read => file ≠ none ∧ prog ≠ none

/-- Every run of the reader takes one of these ways, and the return value is its own. -/
theorem parseBpfElf_fits {model : BpfElf.DataModel} {malloc : Nat → Bool} {path : CText.Bytes}
    {prog : Option BpfElf.ElfBpfProg} (ran : BpfElf.parseBpfElf model malloc path = .ok prog) :
    (∃ elf : ElfEnd, elf.Fits (Stdio.fopen model.longBits path) prog) ∧
      ∀ elf : ElfEnd, elf.Fits (Stdio.fopen model.longBits path) prog →
        ((parseBpfElf elf []).1 = 0 ↔ prog.isSome) := by
  constructor
  · cases file : Stdio.fopen model.longBits path with
    | none =>
      unfold BpfElf.parseBpfElf at ran
      rw [file] at ran
      exact ⟨.noFile, rfl, (Except.ok.inj ran).symm⟩
    | some opened =>
      cases prog with
      | none => exact ⟨.refused, nofun, rfl⟩
      | some read => exact ⟨.read, nofun, nofun⟩
  · intro elf fits
    cases elf with
    | read => exact iff_of_true rfl (Option.isSome_iff_ne_none.mpr fits.2)
    | noFile | refused | short => exact iff_of_false nofun (by rw [fits.2]; nofun)

/-- The answers to the system calls of `bpf_loader_init`; `none` and `false` are failures. -/
structure Answers where
  progLoad : Option Nat
  socket : Option Nat
  ifIndex : Bool
  bind : Bool
  attach : Bool
  online : Int
  rings : Cpu → Answer

def bpfLoaderInit (elf : ElfEnd) (k : Answers) : Tracked (Int × Loader) := do
  let status : BpfLoaderStatus := { socketFd := -1, perfMapFd := -1, bpfProgFd := -1 }
  let useEmbedded := (← parseBpfElf elf) ≠ 0
  k.progLoad.forM fun prog => acquire (.fd prog)
  if ¬ useEmbedded then release .insns
  match k.progLoad with
  | none => return (-1, { status })
  | some prog =>
    let status := { status with bpfProgFd := prog, perfMapFd := -1 }
    match k.socket with
    | none =>
      release (.fd prog)
      return (-1, { status })
    | some sock =>
      acquire (.fd sock)
      if ¬ k.ifIndex ∨ ¬ k.bind ∨ ¬ k.attach then
        release (.fd sock)
        release (.fd prog)
        return (-1, { status })
      else
        let loader : Loader := { status := { status with socketFd := sock, useBpf := true } }
        return (0, if loader.status.perfMapFd ≥ 0 then (createPerfBuffer k.online k.rings loader).2 else loader)

/-- The descriptors that are closed. -/
def closes (calls : List SystemCall) : Log :=
  calls.filterMap fun
    | .close fd => some (.release (.fd fd.toNat))
    | _ => none

def cleanup (pageSize : Nat) (loader : Loader) : Tracked Unit :=
  modify (· ++ closes ((bpfLoaderCleanup pageSize loader).calls.drop loader.calls.length))

/-- From the start of `main` to its end: the loop in between neither opens nor closes anything of the loader's. -/
def mainLoading (elf : ElfEnd) (k : Answers) (pageSize : Nat) : Tracked Unit := do
  let (ret, loader) ← bpfLoaderInit elf k
  let useBpf := ret = 0
  if useBpf then cleanup pageSize loader

/-! ### The logs -/

def fileLog : ElfEnd → Log
  | .noFile => []
  | .refused => [.acquire .file, .release .file]
  | .short => [.acquire .file, .acquire .insns, .release .insns, .release .file]
  | .read => [.acquire .file, .acquire .insns, .release .file]

/-- Up to the program: the file and the instructions are gone, the program is there if the kernel took it. -/
def front (elf : ElfEnd) (progLoad : Option Nat) : Log :=
  (fileLog elf ++ progLoad.toList.map fun prog => .acquire (.fd prog)) ++ if elf = .read then [.release .insns] else []

/-- The calls for the socket all succeed. -/
def Answers.Attached (k : Answers) : Prop := k.ifIndex ∧ k.bind ∧ k.attach

instance (k : Answers) : Decidable k.Attached := inferInstanceAs (Decidable (_ ∧ _ ∧ _))

def back (k : Answers) (prog : Nat) : Log :=
  match k.socket with
  | none => [.release (.fd prog)]
  | some sock => .acquire (.fd sock) :: if k.Attached then [] else [.release (.fd sock), .release (.fd prog)]

def statusOf (prog : Int) (sock : Int) (useBpf : Bool) : Loader :=
  { status := { socketFd := sock, perfMapFd := -1, bpfProgFd := prog, useBpf } }

theorem init_unloaded (elf : ElfEnd) {k : Answers} (refused : k.progLoad = none) :
    bpfLoaderInit elf k [] = ((-1, statusOf (-1) (-1) false), front elf none) := by
  unfold bpfLoaderInit front
  rw [refused]
  cases elf <;> rfl

/-- The status keeps the number of the program also where the program is closed. -/
theorem init_loaded (elf : ElfEnd) {k : Answers} {prog : Nat} (loaded : k.progLoad = some prog) :
    bpfLoaderInit elf k [] =
      ((match k.socket with
        | some sock => if k.Attached then (0, statusOf prog sock true) else (-1, statusOf prog (-1) false)
        | none => (-1, statusOf prog (-1) false)), front elf (some prog) ++ back k prog) := by
  obtain ⟨progLoad, socket, ifIndex, bind, attach, online, rings⟩ := k
  obtain rfl : progLoad = some prog := loaded
  cases socket with
  | none => cases elf <;> rfl
  | some sock => cases ifIndex <;> cases bind <;> cases attach <;> cases elf <;> rfl

theorem front_takes (elf : ElfEnd) (progLoad : Option Nat) : Takes (front elf progLoad) [] (progLoad.toList.map .fd) := by
  cases progLoad <;> cases elf <;> constructor <;> simp [front, fileLog, ProperFrom, book]

/-- What is open once the loader is set up, or has failed. -/
def openFds (k : Answers) (prog : Nat) : List Resource :=
  match k.socket with
  | some sock => if k.Attached then [.fd sock, .fd prog] else []
  | none => []

theorem back_takes {k : Answers} {prog : Nat} (fresh : k.socket ≠ some prog) :
    Takes (back k prog) [.fd prog] (openFds k prog) := by
  unfold back openFds
  cases socket : k.socket with
  | none => exact ⟨by simp [ProperFrom], by simp [book]⟩
  | some sock =>
    have other : sock ≠ prog := by
      rintro rfl
      exact fresh socket
    by_cases attached : k.Attached
    · exact ⟨by simp [ProperFrom, attached, other], by simp [book, attached]⟩
    · exact ⟨by simp [ProperFrom, attached, other], by simp [book, attached]⟩

/-! ### Releasing -/

def cleanupLog (prog sock : Int) : Log :=
  (if 0 ≤ sock then [.release (.fd sock.toNat)] else []) ++ if 0 ≤ prog then [.release (.fd prog.toNat)] else []

theorem cleanup_statusOf (pageSize : Nat) (prog sock : Int) (useBpf : Bool) (log : Log) :
    cleanup pageSize (statusOf prog sock useBpf) log = ((), log ++ cleanupLog prog sock) := by
  have calls : (bpfLoaderCleanup pageSize (statusOf prog sock useBpf)).calls =
      (if 0 ≤ sock then [.close sock] else []) ++ if 0 ≤ prog then [.close prog] else [] := by
    unfold bpfLoaderCleanup closeProg closeSocket statusOf
    by_cases first : 0 ≤ sock <;> by_cases second : 0 ≤ prog <;> simp [first, second, cpus]
  have closed : closes ((if 0 ≤ sock then [.close sock] else []) ++ if 0 ≤ prog then [.close prog] else []) =
      cleanupLog prog sock := by
    unfold closes cleanupLog
    rw [List.filterMap_append]
    congr 1 <;> split <;> rfl
  show ((), log ++ closes ((bpfLoaderCleanup pageSize (statusOf prog sock useBpf)).calls.drop 0)) = _
  rw [List.drop_zero, calls, closed]

theorem cleanupLog_takes (prog sock : Nat) : Takes (cleanupLog prog sock) [.fd sock, .fd prog] [] := by
  have log : cleanupLog prog sock = [.release (.fd sock), .release (.fd prog)] := by
    unfold cleanupLog
    rw [if_pos (Int.natCast_nonneg _), if_pos (Int.natCast_nonneg _), Int.toNat_natCast, Int.toNat_natCast]
    rfl
  rw [log]
  exact ⟨by simp [ProperFrom], by simp [book]⟩

theorem mainLoading_log {elf : ElfEnd} {k : Answers} {ret : Int} {loader : Loader} {log : Log}
    (ran : bpfLoaderInit elf k [] = ((ret, loader), log)) (pageSize : Nat) :
    (mainLoading elf k pageSize []).2 = if ret = 0 then (cleanup pageSize loader log).2 else log := by
  show ((let (ret, loader) := (bpfLoaderInit elf k []).1
    if ret = 0 then cleanup pageSize loader else pure ()) (bpfLoaderInit elf k []).2).2 = _
  rw [ran]
  dsimp only
  split <;> rfl

/-- What is said of the loader, for one outcome of its start. -/
structure Custody (k : Answers) (pageSize : Nat) (ret : Int) (loader : Loader) (log : Log) : Prop where
  started : Takes log [] (if ret = 0 then [.fd loader.status.socketFd.toNat, .fd loader.status.bpfProgFd.toNat] else [])
  ended : Takes (if ret = 0 then (cleanup pageSize loader log).2 else log) [] []
  again : ProperFrom [] (cleanup pageSize loader log).2 ↔ ret = 0 ∨ k.progLoad = none

theorem custody_failed {k : Answers} {prog : Nat} (loaded : k.progLoad = some prog) (pageSize : Nat) {log : Log}
    (takes : Takes log [] []) : Custody k pageSize (-1) (statusOf prog (-1) false) log where
  started := takes
  ended := takes
  again := by
    have twice : cleanupLog prog (-1) = [.release (.fd prog)] := by
      unfold cleanupLog
      rw [if_pos (Int.natCast_nonneg _), Int.toNat_natCast]
      rfl
    rw [cleanup_statusOf, twice, loaded]
    dsimp only
    rw [properFrom_append, takes.held]
    simp [ProperFrom]

theorem custody (elf : ElfEnd) (k : Answers) (pageSize : Nat)
    (fresh : ∀ prog, k.progLoad = some prog → k.socket ≠ some prog) :
    ∃ ret loader log, bpfLoaderInit elf k [] = ((ret, loader), log) ∧ Custody k pageSize ret loader log := by
  cases loaded : k.progLoad with
  | none =>
    refine ⟨_, _, _, init_unloaded elf loaded, ?_, ?_, ?_⟩
    · exact front_takes elf none
    · exact front_takes elf none
    · rw [cleanup_statusOf]
      refine iff_of_true ?_ (.inr loaded)
      show ProperFrom [] (front elf none ++ [])
      rw [List.append_nil]
      exact (front_takes elf none).proper
  | some prog =>
    have ran := init_loaded elf loaded
    have takes := (front_takes elf (some prog)).append (back_takes (fresh prog loaded))
    unfold openFds at takes
    cases socket : k.socket with
    | none =>
      rw [socket] at ran takes
      exact ⟨_, _, _, ran, custody_failed loaded pageSize takes⟩
    | some sock =>
      rw [socket] at ran takes
      dsimp only at ran takes
      by_cases attached : k.Attached
      · rw [if_pos attached] at ran takes
        refine ⟨_, _, _, ran, takes, ?_, ?_⟩
        · rw [if_pos rfl, cleanup_statusOf]
          exact takes.append (cleanupLog_takes prog sock)
        · rw [cleanup_statusOf]
          exact iff_of_true (takes.append (cleanupLog_takes prog sock)).proper (.inl rfl)
      · rw [if_neg attached] at ran takes
        exact ⟨_, _, _, ran, custody_failed loaded pageSize takes⟩

/-- Whatever the kernel answers, the file and the instructions are gone after `bpf_loader_init`, and the descriptors are
open if and only if it returns zero. `main` releases these before it ends. A `bpf_loader_cleanup` after a failure would
close the program a second time, unless the kernel had refused it. -/
theorem loader_custody (elf : ElfEnd) (k : Answers) (pageSize : Nat)
    (fresh : ∀ prog, k.progLoad = some prog → k.socket ≠ some prog) :
    let run := bpfLoaderInit elf k []
    let status := run.1.2.status
    Takes run.2 [] (if run.1.1 = 0 then [.fd status.socketFd.toNat, .fd status.bpfProgFd.toNat] else []) ∧
      Takes (mainLoading elf k pageSize []).2 [] [] ∧
      (ProperFrom [] (cleanup pageSize run.1.2 run.2).2 ↔ run.1.1 = 0 ∨ k.progLoad = none) := by
  obtain ⟨ret, loader, log, ran, started, ended, again⟩ := custody elf k pageSize fresh
  rw [← mainLoading_log ran] at ended
  dsimp only
  rw [ran]
  exact ⟨started, ended, again⟩

/-- The interface is missing: the program and the socket are closed, but the status still names the program. -/
def noInterface : Answers := ⟨some 5, some 6, false, true, true, 4, fun _ => .noEvent⟩

theorem missing_interface_custody :
    (noInterface.progLoad = some 5 ∧ noInterface.socket = some 6) ∧
      Takes (mainLoading .read noInterface 4096 []).2 [] [] ∧
      ¬ ProperFrom [] (cleanup 4096 (bpfLoaderInit .read noInterface []).1.2 (bpfLoaderInit .read noInterface []).2).2 := by
  have fresh : ∀ prog, noInterface.progLoad = some prog → noInterface.socket ≠ some prog := by
    intro prog loaded socket
    exact absurd (Option.some.inj (loaded.trans socket.symm)) (by decide)
  obtain ⟨-, ended, again⟩ := loader_custody .read noInterface 4096 fresh
  refine ⟨⟨rfl, rfl⟩, ended, fun proper => ?_⟩
  rcases again.mp proper with zero | none_
  · exact absurd zero (by decide)
  · cases none_

end StbEbpf.Probe.Loading
