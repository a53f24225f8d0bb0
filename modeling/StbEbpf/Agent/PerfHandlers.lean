import StbEbpf.Agent.Analyzers
import StbEbpf.Agent.TraceHandlers

/-!
The trace programs for scheduling, memory and block I/O and the collectors behind them. Each record should end as one
call of the matching recorder with the values that the kernel saw.
-/

namespace StbEbpf.Agent
open CText Access Words

/-! ### The BPF programs -/

/-- `bpf_probe_read_kernel_str`: the string and its terminator, the rest as it was. -/
def copyName (name : CharBuf 16) (old : Vector UInt8 16) : Vector UInt8 16 :=
  ⟨(name.bytes ++ 0 :: old.toList.drop (name.bytes.length + 1)).toArray, by
    have fits := name.fits
    rw [List.size_toArray, List.length_append, List.length_cons, List.length_drop, old.length_toList]
    omega⟩

/-- What the kernel sees at the six probes. -/
inductive Seen where
  | switch (now : UInt64) (prevComm : CharBuf 16) (prevPid nextPid : UInt32) (prevState : Int64)
  | wakeUp (now : UInt64) (comm : CharBuf 16) (pid : UInt32)
  | kmalloc (task : Task) (size rc : UInt64)
  | kfree (task : Task) (objp : UInt64)
  | issue (task : Task) (dev : UInt32) (sector : UInt64) (nrSector : UInt32)
  | complete (task : Task) (dev : UInt32) (sector : UInt64)

def tracepointSchedSwitch (now : UInt64) (prevComm : CharBuf 16) (prevPid nextPid : UInt32) (prevState : Int64)
    (residue : BpfEvent) : BpfEvent :=
  { residue with
    timestampNs := now
    type := 10 -- EVENT_TYPE_MAX
    pid := prevPid
    ppid := nextPid
    latencyNs := prevState.toUInt64
    bytes := 0
    packets := 0
    count := 0
    comm := copyName prevComm residue.comm
    data := padTo 256 [] }

def tracepointSchedWakeup (now : UInt64) (comm : CharBuf 16) (pid : UInt32) (residue : BpfEvent) : BpfEvent :=
  { residue with
    timestampNs := now
    type := 13
    pid
    ppid := 0
    latencyNs := 0
    bytes := 0
    packets := 0
    count := 0
    comm := copyName comm residue.comm
    data := padTo 256 [] }

/-- The record of the kprobes and of the block tracepoints, which differ in five members. -/
def taskRecord (task : Task) (type : UInt32) (bytes latencyNs count : UInt64) (residue : BpfEvent) : BpfEvent :=
  { residue with
    timestampNs := task.now
    type
    pid := task.pid
    comm := task.array
    bytes
    packets := 0
    latencyNs
    count
    data := padTo 256 [] }

/-- `rc` is what `PT_REGS_RC` finds in the register on entry to `__kmalloc`. -/
def traceKmalloc (task : Task) (size rc : UInt64) (residue : BpfEvent) : Option BpfEvent :=
  if rc = 0 then none else some (taskRecord task 14 size 0 1 residue)

def traceKfree (task : Task) (residue : BpfEvent) : BpfEvent := taskRecord task 15 0 0 1 residue

/-- The map `block_start`. -/
abbrev BlockStart := GoMap UInt64 UInt64

/-- `bpf_map_update_elem` on a map of 8192 entries. -/
def BlockStart.update (starts : BlockStart) (key value : UInt64) : BlockStart :=
  if key ∈ starts ∨ starts.keys.length < 8192 then starts.insert key value else starts

def tracepointBlockRqIssue (task : Task) (dev : UInt32) (sector : UInt64) (nrSector : UInt32) (starts : BlockStart)
    (residue : BpfEvent) : BpfEvent × BlockStart :=
  (taskRecord task 16 (nrSector.toUInt64 * 512) 0 0 residue,
    starts.update (BlockIoAnalyzer.requestKey dev.toUInt64 sector) task.now)

def tracepointBlockRqComplete (task : Task) (dev : UInt32) (sector : UInt64) (starts : BlockStart)
    (residue : BpfEvent) : Option BpfEvent × BlockStart :=
  let key := BlockIoAnalyzer.requestKey dev.toUInt64 sector
  match starts.lookup key with
  | none => (none, starts)
  | some start => (some (taskRecord task 17 0 (task.now - start) 1 residue), starts.erase key)

/-- The record that is submitted, and the map afterwards. -/
def Seen.submit (starts : BlockStart) (residue : BpfEvent) : Seen → Option BpfEvent × BlockStart
  | switch now prevComm prevPid nextPid prevState =>
    (some (tracepointSchedSwitch now prevComm prevPid nextPid prevState residue), starts)
  | wakeUp now comm pid => (some (tracepointSchedWakeup now comm pid residue), starts)
  | kmalloc task size rc => (traceKmalloc task size rc residue, starts)
  | kfree task _ => (some (traceKfree task residue), starts)
  | issue task dev sector nrSector =>
    let (record, starts) := tracepointBlockRqIssue task dev sector nrSector starts residue
    (some record, starts)
  | complete task dev sector => tracepointBlockRqComplete task dev sector starts residue

/-! ### The collectors -/

inductive RecorderCall where
  | recordSwitch (pid nextPid : UInt32) (prevState : Int64)
  | recordWakeUp (pid : UInt32) (latencyNs : UInt64)
  | recordAlloc (pid : UInt32) (comm : Bytes) (size ptr : UInt64)
  | recordFree (pid : UInt32) (comm : Bytes) (ptr : UInt64)
  | recordIssue (dev sector size : UInt64)
  | recordComplete (dev sector : UInt64)
  deriving DecidableEq, Repr

/-- The call that `handleEvent` makes, if it makes one. -/
def schedHandleEvent (data : Bytes) : Checked (Option RecorderCall) := do
  if data.length < 48 then return none
  else
    let etype ← readUint32 data 8
    let pid ← readUint32 data 12
    let ppid ← readUint32 data 16
    let latency ← readUint64 data 48
    if etype = 12 then return some (.recordSwitch pid ppid latency.toInt64)
    else if etype = 13 then return some (.recordWakeUp pid latency)
    else return none

def memHandleEvent (data : Bytes) : Checked (Option RecorderCall) := do
  if data.length < 48 then return none
  else
    let etype ← readUint32 data 8
    let pid ← readUint32 data 12
    let bytes ← readUint64 data 40
    if etype = 14 then return some (.recordAlloc pid [] bytes 0)
    else if etype = 15 then return some (.recordFree pid [] 0)
    else return none

def blockHandleEvent (data : Bytes) : Checked (Option RecorderCall) := do
  if data.length < 48 then return none
  else
    let etype ← readUint32 data 8
    let pid ← readUint32 data 12
    let bytes ← readUint64 data 40
    let latency ← readUint64 data 48
    if etype = 16 then return some (.recordIssue pid.toUInt64 bytes latency)
    else if etype = 17 then return some (.recordComplete pid.toUInt64 bytes)
    else return none

def Seen.handle : Seen → Bytes → Checked (Option RecorderCall)
  | switch .. | wakeUp .. => schedHandleEvent
  | kmalloc .. | kfree .. => memHandleEvent
  | issue .. | complete .. => blockHandleEvent

/-! ### What should be recorded -/

/-- The allocation is counted, with its size, in whatever state the detector is. -/
def Counted (pid : UInt32) (size : UInt64) : Option RecorderCall → Prop
  | some (.recordAlloc p comm s ptr) => p = pid ∧ s = size ∧ ∀ (d : MemLeakDetector) (now : Int),
      ((d.recordAlloc now p comm s ptr).statOf pid comm).allocCount = (d.statOf pid comm).allocCount + 1 ∧
      ((d.recordAlloc now p comm s ptr).statOf pid comm).totalAlloc = (d.statOf pid comm).totalAlloc + size
  | _ => False

/-- The recorder is called with what the kernel saw. -/
def Seen.Recorded (call : Option RecorderCall) : Seen → Prop
  | switch _ _ prevPid nextPid prevState => call = some (.recordSwitch prevPid nextPid prevState)
  | wakeUp _ _ pid => call = some (.recordWakeUp pid 0)
  | kmalloc task size _ => Counted task.pid size call
  | kfree task objp => call = some (.recordFree task.pid [] objp)
  | issue _ dev sector nrSector => call = some (.recordIssue dev.toUInt64 sector (nrSector.toUInt64 * 512))
  | complete _ dev sector => call = some (.recordComplete dev.toUInt64 sector)

/-- When it is. -/
def Seen.Survives : Seen → Prop
  | switch .. | kmalloc .. => False
  | wakeUp .. => True
  | kfree _ objp => objp = 0
  | issue task dev sector nrSector => task.pid = dev ∧ sector = 0 ∧ nrSector = 0
  | complete task dev sector => task.pid = dev ∧ sector = 0

section
variable (e : BpfEvent)

theorem schedHandleEvent_reads :
    schedHandleEvent e.sample = .ok (
      if e.type = 12 then some (.recordSwitch e.pid e.ppid e.packets.toInt64)
      else if e.type = 13 then some (.recordWakeUp e.pid e.packets) else none) := by
  unfold schedHandleEvent
  rw [if_neg (sample_long e), e.type_read, ok_bind, e.pid_read, ok_bind, e.ppid_read, ok_bind, e.packets_read, ok_bind]
  split_ifs <;> rfl

theorem memHandleEvent_reads :
    memHandleEvent e.sample = .ok (
      if e.type = 14 then some (.recordAlloc e.pid [] e.bytes 0)
      else if e.type = 15 then some (.recordFree e.pid [] 0) else none) := by
  unfold memHandleEvent
  rw [if_neg (sample_long e), e.type_read, ok_bind, e.pid_read, ok_bind, e.bytes_read, ok_bind]
  split_ifs <;> rfl

theorem blockHandleEvent_reads :
    blockHandleEvent e.sample = .ok (
      if e.type = 16 then some (.recordIssue e.pid.toUInt64 e.bytes e.packets)
      else if e.type = 17 then some (.recordComplete e.pid.toUInt64 e.bytes) else none) := by
  unfold blockHandleEvent
  rw [if_neg (sample_long e), e.type_read, ok_bind, e.pid_read, ok_bind, e.bytes_read, ok_bind, e.packets_read, ok_bind]
  split_ifs <;> rfl

end

/-! ### Single records -/

/-- A null pointer is not counted. -/
theorem null_not_counted (pid : UInt32) (size : UInt64) : ¬ Counted pid size (some (.recordAlloc pid [] size 0)) := by
  rintro ⟨-, -, counts⟩
  obtain ⟨one, -⟩ := counts {} 0
  have grown : (0 : UInt64) = 0 + 1 := one
  exact absurd grown (by decide)

theorem sectors_zero_iff (nrSector : UInt32) : nrSector.toUInt64 * 512 = 0 ↔ nrSector = 0 := by
  constructor
  · intro zero
    have small := nrSector.toNat_lt
    have value := congrArg UInt64.toNat zero
    rw [UInt64.toNat_mul, UInt32.toNat_toUInt64] at value
    have unchanged : nrSector.toNat * 512 % 2 ^ 64 = 0 := value
    exact UInt32.toNat_inj.mp (by show nrSector.toNat = 0; omega)
  · rintro rfl
    rfl

theorem issue_recorded_iff (task : Task) (dev : UInt32) (sector : UInt64) (nrSector : UInt32) :
    (some (.recordIssue task.pid.toUInt64 (nrSector.toUInt64 * 512) 0) : Option RecorderCall) =
        some (.recordIssue dev.toUInt64 sector (nrSector.toUInt64 * 512)) ↔
      task.pid = dev ∧ sector = 0 ∧ nrSector = 0 := by
  constructor
  · intro same
    obtain ⟨device, place, size⟩ := RecorderCall.recordIssue.inj (Option.some.inj same)
    have nothing := (sectors_zero_iff nrSector).mp size.symm
    exact ⟨UInt32.toUInt64_inj.mp device, by rw [← place, size.symm], nothing⟩
  · rintro ⟨rfl, rfl, rfl⟩
    rfl

theorem complete_recorded_iff (task : Task) (dev : UInt32) (sector : UInt64) :
    (some (.recordComplete task.pid.toUInt64 0) : Option RecorderCall) = some (.recordComplete dev.toUInt64 sector) ↔
      task.pid = dev ∧ sector = 0 := by
  constructor
  · intro same
    obtain ⟨device, place⟩ := RecorderCall.recordComplete.inj (Option.some.inj same)
    exact ⟨UInt32.toUInt64_inj.mp device, place.symm⟩
  · rintro ⟨rfl, rfl⟩
    rfl

/-- What comes of a record: the fields are read where others are written, so that a switch gives no call, pointers are
null, a process stands for the device and the bytes of a request for its sector. -/
def Seen.call : Seen → Option RecorderCall
  | switch .. => none
  | wakeUp _ _ pid => some (.recordWakeUp pid 0)
  | kmalloc task size _ => some (.recordAlloc task.pid [] size 0)
  | kfree task _ => some (.recordFree task.pid [] 0)
  | issue task _ _ nrSector => some (.recordIssue task.pid.toUInt64 (nrSector.toUInt64 * 512) 0)
  | complete task _ _ => some (.recordComplete task.pid.toUInt64 0)

theorem handle_submitted {seen : Seen} {starts : BlockStart} {residue record : BpfEvent}
    (submitted : (seen.submit starts residue).1 = some record) : seen.handle record.sample = .ok seen.call := by
  cases seen with
  | switch | wakeUp =>
    cases submitted
    exact schedHandleEvent_reads _
  | kmalloc task size rc =>
    replace submitted : traceKmalloc task size rc residue = some record := submitted
    unfold traceKmalloc at submitted
    split at submitted
    · cases submitted
    · cases submitted
      exact memHandleEvent_reads _
  | kfree =>
    cases submitted
    exact memHandleEvent_reads _
  | issue =>
    cases submitted
    exact blockHandleEvent_reads _
  | complete task dev sector =>
    replace submitted : (tracepointBlockRqComplete task dev sector starts residue).1 = some record := submitted
    unfold tracepointBlockRqComplete at submitted
    dsimp only at submitted
    split at submitted
    · cases submitted
    · cases submitted
      exact blockHandleEvent_reads _

theorem call_recorded_iff (seen : Seen) : seen.Recorded seen.call ↔ seen.Survives := by
  cases seen with
  | switch => exact ⟨nofun, False.elim⟩
  | wakeUp => exact ⟨fun _ => trivial, fun _ => rfl⟩
  | kmalloc task size => exact ⟨null_not_counted task.pid size, False.elim⟩
  | kfree task objp =>
    refine ⟨fun same => (RecorderCall.recordFree.inj (Option.some.inj same)).2.2.symm, ?_⟩
    rintro rfl
    rfl
  | issue task dev sector nrSector => exact issue_recorded_iff task dev sector nrSector
  | complete task dev sector => exact complete_recorded_iff task dev sector

theorem record_handled {seen : Seen} {starts : BlockStart} {residue record : BpfEvent}
    (submitted : (seen.submit starts residue).1 = some record) :
    ∃ call, seen.handle record.sample = .ok call ∧ (seen.Recorded call ↔ seen.Survives) :=
  ⟨_, handle_submitted submitted, call_recorded_iff seen⟩

/-! ### Block requests -/

/-- The map of the BPF program and the analyzer behind the ring buffer. -/
structure BlockSystem where
  starts : BlockStart := ∅
  analyzer : BlockIoAnalyzer := {}

/-- What the ring buffer did with a record: whether it had room, what the memory held, and when the collector got it. -/
structure Passage where
  reserved : Bool
  residue : BpfEvent
  ts : Int

inductive BlockStep where
  | issue (task : Task) (dev : UInt32) (sector : UInt64) (nrSector : UInt32) (passage : Passage)
  | complete (task : Task) (dev : UInt32) (sector : UInt64) (passage : Passage)
  | flush

def BlockIoAnalyzer.record (a : BlockIoAnalyzer) (ts : Int) : Option RecorderCall → BlockIoAnalyzer
  | some (.recordIssue dev sector size) => a.recordIssue dev sector size ts
  | some (.recordComplete dev sector) => a.recordComplete dev sector ts
  | _ => a

namespace BlockSystem

def pass (s : BlockSystem) (passage : Passage) (seen : Seen) : Checked BlockSystem := do
  let (record, starts) := seen.submit s.starts passage.residue
  match record with
  | none => return { s with starts }
  | some record =>
    if passage.reserved then
      return { starts, analyzer := s.analyzer.record passage.ts (← blockHandleEvent record.sample) }
    else return { s with starts }

def step (s : BlockSystem) : BlockStep → Checked BlockSystem
  | .issue task dev sector nrSector passage => s.pass passage (.issue task dev sector nrSector)
  | .complete task dev sector passage => s.pass passage (.complete task dev sector)
  | .flush => pure { s with analyzer := s.analyzer.reset }

def run (s : BlockSystem) (steps : List BlockStep) : Checked BlockSystem := steps.foldlM step s

end BlockSystem

/-- A step that is recorded as the kernel saw it and concerns another request. -/
def BlockStep.Apart (key : UInt64) : BlockStep → Prop
  | issue task dev sector nrSector _ =>
    (Seen.issue task dev sector nrSector).Survives ∧ key ≠ BlockIoAnalyzer.requestKey dev.toUInt64 sector
  | complete task dev sector _ =>
    (Seen.complete task dev sector).Survives ∧ key ≠ BlockIoAnalyzer.requestKey dev.toUInt64 sector
  | flush => False

/-- The request is on its way: known to the program and to the analyzer. -/
structure Outstanding (key : UInt64) (s : BlockSystem) : Prop where
  started : key ∈ s.starts
  pending : key ∈ s.analyzer.pending

section
variable {s : BlockSystem} {key : UInt64}

theorem update_keeps {starts : BlockStart} (started : key ∈ starts) (other value : UInt64) :
    key ∈ starts.update other value := by
  unfold BlockStart.update
  split
  · exact (AList.mem_insert _).mpr (Or.inr started)
  · exact started

theorem pass_issue (task : Task) (dev : UInt32) (sector : UInt64) (nrSector : UInt32) (passage : Passage) :
    s.pass passage (.issue task dev sector nrSector) = .ok
      { starts := s.starts.update (BlockIoAnalyzer.requestKey dev.toUInt64 sector) task.now
        analyzer := if passage.reserved then
            s.analyzer.recordIssue task.pid.toUInt64 (nrSector.toUInt64 * 512) 0 passage.ts
          else s.analyzer } := by
  unfold BlockSystem.pass
  dsimp only [Seen.submit, tracepointBlockRqIssue]
  cases passage.reserved with
  | false => rfl
  | true =>
    rw [if_pos rfl, if_pos rfl, blockHandleEvent_reads, ok_bind]
    rfl

theorem pass_complete (task : Task) (dev : UInt32) (sector : UInt64) (passage : Passage)
    (started : BlockIoAnalyzer.requestKey dev.toUInt64 sector ∈ s.starts) :
    s.pass passage (.complete task dev sector) = .ok
      { starts := s.starts.erase (BlockIoAnalyzer.requestKey dev.toUInt64 sector)
        analyzer := if passage.reserved then s.analyzer.recordComplete task.pid.toUInt64 0 passage.ts
          else s.analyzer } := by
  obtain ⟨start, found⟩ := Option.isSome_iff_exists.mp (AList.lookup_isSome.mpr started)
  unfold BlockSystem.pass
  dsimp only [Seen.submit, tracepointBlockRqComplete]
  rw [found]
  dsimp only
  cases passage.reserved with
  | false => rfl
  | true =>
    rw [if_pos rfl, if_pos rfl, blockHandleEvent_reads, ok_bind]
    rfl

theorem pass_stray (task : Task) (dev : UInt32) (sector : UInt64) (passage : Passage)
    (stray : BlockIoAnalyzer.requestKey dev.toUInt64 sector ∉ s.starts) :
    s.pass passage (.complete task dev sector) = .ok s := by
  have missing := AList.lookup_eq_none.mpr stray
  unfold BlockSystem.pass
  dsimp only [Seen.submit, tracepointBlockRqComplete]
  rw [missing]
  rfl

theorem issue_keeps {task : Task} {dev : UInt32} {sector : UInt64} {nrSector : UInt32} (passage : Passage)
    (outstanding : Outstanding key s) :
    Safe (s.pass passage (.issue task dev sector nrSector)) (Outstanding key) := by
  rw [pass_issue]
  refine ⟨_, rfl, update_keeps outstanding.started _ _, ?_⟩
  dsimp only
  split
  · exact (AList.mem_insert _).mpr (Or.inr outstanding.pending)
  · exact outstanding.pending

theorem complete_keeps {task : Task} {dev : UInt32} {sector : UInt64} (passage : Passage)
    (survives : (Seen.complete task dev sector).Survives)
    (other : key ≠ BlockIoAnalyzer.requestKey dev.toUInt64 sector) (outstanding : Outstanding key s) :
    Safe (s.pass passage (.complete task dev sector)) (Outstanding key) := by
  obtain ⟨rfl, rfl⟩ := survives
  by_cases started : BlockIoAnalyzer.requestKey task.pid.toUInt64 0 ∈ s.starts
  · rw [pass_complete _ _ _ _ started]
    refine ⟨_, rfl, AList.mem_erase.mpr ⟨other, outstanding.started⟩, ?_⟩
    dsimp only
    split
    · exact BlockIoAnalyzer.recordComplete_pending other passage.ts outstanding.pending
    · exact outstanding.pending
  · rw [pass_stray _ _ _ _ started]
    exact ⟨s, rfl, outstanding⟩

theorem apart_keeps (step : BlockStep) (apart : step.Apart key) (outstanding : Outstanding key s) :
    Safe (s.step step) (Outstanding key) := by
  cases step with
  | issue task dev sector nrSector passage => exact issue_keeps passage outstanding
  | complete task dev sector passage => exact complete_keeps passage apart.1 apart.2 outstanding
  | flush => exact apart.elim

theorem run_keeps (steps : List BlockStep) (apart : ∀ step ∈ steps, step.Apart key) (outstanding : Outstanding key s) :
    Safe (s.run steps) (Outstanding key) := by
  induction steps generalizing s with
  | nil => exact safe_pure outstanding
  | cons step rest ih =>
    unfold BlockSystem.run
    rw [List.foldlM_cons]
    apply safe_bind (apart_keeps step (apart step List.mem_cons_self) outstanding)
    intro t kept
    exact ih (fun later member => apart later (List.mem_cons_of_mem _ member)) kept

theorem issue_outstanding {task : Task} {dev : UInt32} {sector : UInt64} {nrSector : UInt32} {passage : Passage}
    (survives : (Seen.issue task dev sector nrSector).Survives) (reserved : passage.reserved = true)
    (room : BlockIoAnalyzer.requestKey dev.toUInt64 sector ∈ s.starts ∨ s.starts.keys.length < 8192) :
    Safe (s.step (.issue task dev sector nrSector passage))
      (Outstanding (BlockIoAnalyzer.requestKey dev.toUInt64 sector)) := by
  obtain ⟨rfl, rfl, rfl⟩ := survives
  rw [BlockSystem.step, pass_issue, reserved]
  refine ⟨_, rfl, ?_, BlockIoAnalyzer.recordIssue_pending _ _ _ _ _⟩
  dsimp only
  unfold BlockStart.update
  rw [if_pos room]
  exact (AList.mem_insert _).mpr (Or.inl rfl)

theorem complete_counts {task : Task} {dev : UInt32} {sector : UInt64} {passage : Passage}
    (survives : (Seen.complete task dev sector).Survives) (reserved : passage.reserved = true)
    (outstanding : Outstanding (BlockIoAnalyzer.requestKey dev.toUInt64 sector) s) :
    Safe (s.step (.complete task dev sector passage)) fun t =>
      t.analyzer.operations dev.toUInt64 = s.analyzer.operations dev.toUInt64 + 1 := by
  obtain ⟨rfl, rfl⟩ := survives
  rw [BlockSystem.step, pass_complete _ _ _ _ outstanding.started, reserved]
  exact ⟨_, rfl, BlockIoAnalyzer.recordComplete_operations outstanding.pending passage.ts⟩

end

/-- A request that is issued and later completed, with what comes in between. -/
structure RequestRun where
  dev : UInt32
  sector : UInt64
  nrSector : UInt32
  issuer : Task
  completer : Task
  issued : Passage
  completed : Passage
  between : List BlockStep

/-- Both records get through and are recorded as seen, and so is everything in between, which is about other requests. -/
structure RequestRun.Clean (run : RequestRun) (s : BlockSystem) : Prop where
  room : BlockIoAnalyzer.requestKey run.dev.toUInt64 run.sector ∈ s.starts ∨ s.starts.keys.length < 8192
  issued : run.issued.reserved = true ∧ (Seen.issue run.issuer run.dev run.sector run.nrSector).Survives
  completed : run.completed.reserved = true ∧ (Seen.complete run.completer run.dev run.sector).Survives
  apart : ∀ step ∈ run.between, step.Apart (BlockIoAnalyzer.requestKey run.dev.toUInt64 run.sector)

/-- The state in which the completion finds the system. -/
def RequestRun.upToCompletion (run : RequestRun) (s : BlockSystem) : Checked BlockSystem :=
  s.run (.issue run.issuer run.dev run.sector run.nrSector run.issued :: run.between)

theorem clean_request_counted {run : RequestRun} {s : BlockSystem} (clean : run.Clean s) :
    Safe (run.upToCompletion s) fun t =>
      Safe (t.step (.complete run.completer run.dev run.sector run.completed)) fun u =>
        u.analyzer.operations run.dev.toUInt64 = t.analyzer.operations run.dev.toUInt64 + 1 := by
  unfold RequestRun.upToCompletion BlockSystem.run
  rw [List.foldlM_cons]
  apply safe_bind (issue_outstanding clean.issued.2 clean.issued.1 clean.room)
  intro started outstanding
  apply safe_weaken (run_keeps run.between clean.apart outstanding)
  intro t kept
  exact complete_counts clean.completed.2 clean.completed.1 kept

/-- Wake-ups are recorded as seen; a context switch and an allocation never are, the free of a null pointer is, and a
block request is when its device number is the process that the tracepoint interrupts and it starts at sector 0, the
issue only without sectors. In a run of such records a completed request is one more operation of its device. -/
theorem recorded_as_seen_iff (seen : Seen) (starts : BlockStart) (residue record : BpfEvent)
    (submitted : (seen.submit starts residue).1 = some record) (run : RequestRun) (s : BlockSystem) :
    (∃ call, seen.handle record.sample = .ok call ∧ (seen.Recorded call ↔ seen.Survives)) ∧
    (run.Clean s →
      Safe (run.upToCompletion s) fun t =>
        Safe (t.step (.complete run.completer run.dev run.sector run.completed)) fun u =>
          u.analyzer.operations run.dev.toUInt64 = t.analyzer.operations run.dev.toUInt64 + 1) :=
  ⟨record_handled submitted, clean_request_counted⟩

def samplePassage : Passage := ⟨true, zeroRecord, 0⟩

/-- Process 7 asks device 7 for nothing at sector 0. -/
def emptyRequest : RequestRun where
  dev := 7
  sector := 0
  nrSector := 0
  issuer := ⟨0, 7, .zero⟩
  completer := ⟨1, 7, .zero⟩
  issued := samplePassage
  completed := samplePassage
  between := []

theorem empty_request_counted :
    (∃ call, schedHandleEvent (tracepointSchedWakeup 0 .zero 7 zeroRecord).sample = .ok call ∧
      (Seen.wakeUp 0 .zero 7).Recorded call) ∧
    Safe (emptyRequest.upToCompletion {}) fun t =>
      Safe (t.step (.complete ⟨1, 7, .zero⟩ 7 0 samplePassage)) fun u =>
        u.analyzer.operations 7 = t.analyzer.operations 7 + 1 := by
  obtain ⟨⟨call, handled, recorded⟩, counted⟩ :=
    recorded_as_seen_iff (.wakeUp 0 .zero 7) ∅ zeroRecord _ rfl emptyRequest {}
  refine ⟨⟨call, handled, recorded.mpr trivial⟩, ?_⟩
  exact counted ⟨Or.inr (by decide), ⟨rfl, rfl, rfl, rfl⟩, ⟨rfl, rfl, rfl⟩, nofun⟩

/-- Process 100 reads eight sectors of 8:0 from sector 2048 on. -/
def diskRead : List BlockStep :=
  [.issue ⟨0, 100, .zero⟩ 0x800000 2048 8 samplePassage, .complete ⟨1, 100, .zero⟩ 0x800000 2048 samplePassage]

-- The issue is filed under the process and the byte count, the completion is looked for under the process and 0.
theorem disk_read_not_counted :
    (∃ t, BlockSystem.run {} diskRead = .ok t ∧ t.analyzer.operations 0x800000 = 0) ∧
      ∃ call, blockHandleEvent (taskRecord ⟨0, 100, .zero⟩ 16 (8 * 512) 0 0 zeroRecord).sample = .ok call ∧
        call = some (.recordIssue 100 4096 0) ∧ ¬ (Seen.issue ⟨0, 100, .zero⟩ 0x800000 2048 8).Recorded call := by
  refine ⟨?_, _, blockHandleEvent_reads _, rfl, ?_⟩
  · have ran : BlockSystem.run {} diskRead =
        (BlockSystem.pass {} samplePassage (.issue ⟨0, 100, .zero⟩ 0x800000 2048 8) >>= fun s =>
          s.pass samplePassage (.complete ⟨1, 100, .zero⟩ 0x800000 2048) >>= pure) := rfl
    rw [pass_issue, ok_bind, pass_complete _ _ _ _ (by decide), ok_bind] at ran
    exact ⟨_, ran, by decide⟩
  · intro recorded
    obtain ⟨device, -, -⟩ := RecorderCall.recordIssue.inj (Option.some.inj recorded)
    exact absurd device (by decide)

end StbEbpf.Agent
