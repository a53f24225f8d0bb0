import StbEbpf.Agent.TraceHandlers
import StbEbpf.Lib.BoundedMap
import StbEbpf.Lib.Run

/-!
System calls. The two tracepoint programs of `bpf/syscall.bpf.c` know of each other through a map of start times, with
one entry for each thread inside a call; the collector gets the records of both. A program is one step: whatever runs at
the same time works on entries of other threads and on records of its own.
-/

namespace StbEbpf.Agent
open CText Access BoundedMap Run

/-! ### The BPF programs -/

/-- The map `syscall_start`. -/
abbrev SyscallStart := Map UInt64 UInt64

/-- A thread that runs into a tracepoint, and the memory that `bpf_ringbuf_reserve` has for its record, if any. -/
structure Thread where
  pidTgid : UInt64
  comm : CharBuf 16
  slot : Option BpfEvent

def Thread.pid (thread : Thread) : UInt32 := (thread.pidTgid >>> 32).toUInt32

/-- `id` is the number of the call, a `long`. -/
def tracepointSysEnter (thread : Thread) (ts : UInt64) (id : Int64) (starts : SyscallStart) :
    Option BpfEvent × SyscallStart :=
  (thread.slot.map fun residue =>
    { residue with
      timestampNs := ts
      type := 8
      pid := thread.pid
      comm := padTo 16 thread.comm.bytes
      count := id.toUInt64 },
    update 8192 starts thread.pidTgid ts)

/-- The clock is read twice, for the latency and for the time stamp. -/
def tracepointSysExit (thread : Thread) (now later : UInt64) (starts : SyscallStart) : Option BpfEvent × SyscallStart :=
  match starts.lookup thread.pidTgid with
  | none => (none, starts)
  | some start =>
    (thread.slot.map fun residue =>
      { residue with
        timestampNs := later
        type := 8
        pid := thread.pid
        comm := padTo 16 thread.comm.bytes
        latencyNs := now - start },
      starts.erase thread.pidTgid)

/-! ### The collector -/

/-- The arguments of `WriteSyscallEvent`. -/
structure SyscallReport where
  ts : Time
  probeId : Bytes
  pid : UInt32
  comm : Bytes
  syscallNr : UInt64
  latencyNs : UInt64
  count : UInt64

def syscallHandleEvent (r : Reporter) (data : Bytes) : Checked (Option SyscallReport) := do
  if data.length < 88 then return none
  else
    let pid ← readUint32 data 12
    let comm ← readRange data 72 16
    let latencyNs ← readUint64 data 56
    let syscallNr ← readUint64 data 64
    return some { ts := r.now, probeId := r.probeId, pid, comm := trimNul comm, syscallNr, latencyNs, count := 1 }

theorem syscallHandleEvent_reads (r : Reporter) (e : BpfEvent) :
    syscallHandleEvent r e.sample = .ok (some
      { ts := r.now, probeId := r.probeId, pid := e.pid, comm := trimNul e.comm.toList, syscallNr := e.count,
        latencyNs := e.latencyNs, count := 1 }) := by
  unfold syscallHandleEvent
  rw [if_neg (by rw [e.sample_length]; decide), e.pid_read, ok_bind, e.comm_read, ok_bind, e.latencyNs_read, ok_bind,
    e.count_read, ok_bind]
  rfl

/-! ### Runs -/

inductive SyscallStep where
  | enter (thread : Thread) (ts : UInt64) (id : Int64)
  | exit (thread : Thread) (now later : UInt64)

/-- What a thread brought to `sys_enter`. -/
structure Entered where
  ts : UInt64
  id : Int64
  deriving DecidableEq

/-- `inside` is history: the threads inside a call, and how they got there. -/
structure SyscallTrace where
  starts : SyscallStart := ∅
  inside : Map UInt64 Entered := ∅

namespace SyscallTrace

def step (s : SyscallTrace) : SyscallStep → SyscallTrace
  | .enter thread ts id =>
    { starts := (tracepointSysEnter thread ts id s.starts).2, inside := s.inside.insert thread.pidTgid ⟨ts, id⟩ }
  | .exit thread now later =>
    { starts := (tracepointSysExit thread now later s.starts).2, inside := s.inside.erase thread.pidTgid }

/-- A thread enters a call when it is not inside one, with fewer than 8192 threads inside. -/
def Permitted (s : SyscallTrace) : SyscallStep → Prop
  | .enter thread _ _ => thread.pidTgid ∉ s.inside ∧ s.inside.keys.length < 8192
  | .exit .. => True

/-- A record that is submitted at `sys_exit` is reported with the number of the call that the thread is inside of, and
with the time since the thread entered it. -/
def Paired (r : Reporter) (s : SyscallTrace) : SyscallStep → Prop
  | .enter .. => True
  | .exit thread now later =>
    ∀ event, (tracepointSysExit thread now later s.starts).1 = some event →
      ∃ entered report, s.inside.lookup thread.pidTgid = some entered ∧
        syscallHandleEvent r event.sample = .ok (some report) ∧
        (report.syscallNr, report.latencyNs) = (entered.id.toUInt64, now - entered.ts)

/-- The memory of a record of `sys_exit` holds, from before, the number of the call where `count` is. -/
def SlotHoldsNumber (s : SyscallTrace) : SyscallStep → Prop
  | .enter .. => True
  | .exit thread _ _ => ∀ residue entered, thread.slot = some residue →
      s.inside.lookup thread.pidTgid = some entered → residue.count = entered.id.toUInt64

/-- The map has the start times of the threads inside a call. -/
def Tracked (s : SyscallTrace) : Prop := ∀ thread, s.starts.lookup thread = (s.inside.lookup thread).map Entered.ts

theorem tracked_init : Tracked {} := by
  intro thread
  rfl

theorem Tracked.mem_iff {s : SyscallTrace} (tracked : s.Tracked) (thread : UInt64) :
    thread ∈ s.starts ↔ thread ∈ s.inside := by
  rw [← AList.lookup_isSome, ← AList.lookup_isSome, tracked thread, Option.isSome_map]

theorem step_tracked (s : SyscallTrace) (step : SyscallStep) (tracked : s.Tracked) (permitted : s.Permitted step) :
    (s.step step).Tracked := by
  intro other
  cases step with
  | enter thread ts id =>
    obtain ⟨-, few⟩ := permitted
    have room : HasRoom 8192 s.starts thread.pidTgid := by
      right
      rwa [keys_length_eq tracked.mem_iff]
    simp only [SyscallTrace.step, tracepointSysEnter, update_of_room room]
    by_cases same : other = thread.pidTgid
    · subst same
      rw [AList.lookup_insert, AList.lookup_insert]
      rfl
    · rw [AList.lookup_insert_ne same, AList.lookup_insert_ne same]
      exact tracked other
  | exit thread now later =>
    dsimp only [SyscallTrace.step, tracepointSysExit]
    have own := tracked thread.pidTgid
    by_cases same : other = thread.pidTgid
    · subst same
      rw [AList.lookup_erase]
      split
      · assumption
      · exact AList.lookup_erase _ _
    · rw [AList.lookup_erase_ne same]
      split
      · exact tracked other
      · exact (AList.lookup_erase_ne same).trans (tracked other)

/-- The latency is the right one; the number is whatever the memory held. -/
theorem paired_iff (r : Reporter) (s : SyscallTrace) (step : SyscallStep) (tracked : s.Tracked) :
    s.Paired r step ↔ s.SlotHoldsNumber step := by
  cases step with
  | enter => exact Iff.rfl
  | exit thread now later =>
    have own := tracked thread.pidTgid
    dsimp only [Paired, SlotHoldsNumber, tracepointSysExit]
    cases inside : s.inside.lookup thread.pidTgid with
    | none =>
      rw [inside] at own
      rw [own]
      simp
    | some entered =>
      rw [inside] at own
      rw [own]
      cases slot : thread.slot with
      | none => simp
      | some residue => simp [syscallHandleEvent_reads]

end SyscallTrace

open SyscallTrace

/-- Along every permitted run of threads entering and leaving calls: every record of `sys_exit` is reported with the
number and the latency of its own call, if and only if the memory of each such record holds that number already. -/
theorem exits_paired_iff (r : Reporter) {steps : List SyscallStep} (permitted : Along step Permitted {} steps) :
    Along step (Paired r) {} steps ↔ Along step SlotHoldsNumber {} steps :=
  along_iff (fun s step tracked allowed _ => step_tracked s step tracked allowed) (paired_iff r) tracked_init permitted

/-- One thread in one `read` of 50 ns; `count` is what the memory of its second record held. -/
def oneRead (count : UInt64) : List SyscallStep :=
  [.enter ⟨0x100000001, .zero, none⟩ 100 0, .exit ⟨0x100000001, .zero, some { zeroRecord with count }⟩ 150 151]

theorem read_in_cleared_memory : Along step (Paired ⟨.unix 0, []⟩) {} (oneRead 0) := by
  have permitted : Along step Permitted {} (oneRead 0) := ⟨⟨AList.notMem_empty _, by decide⟩, trivial, trivial⟩
  refine (exits_paired_iff ⟨.unix 0, []⟩ permitted).mpr ⟨trivial, ?_, trivial⟩
  rintro residue entered ⟨⟩ inside
  cases inside.symm.trans (AList.lookup_insert _)
  rfl

/-- The memory held a record of `write`. -/
theorem read_reported_as_write : ¬ Along step (Paired ⟨.unix 0, []⟩) {} (oneRead 1) := by
  rintro ⟨-, paired, -⟩
  obtain ⟨entered, report, inside, handled, pair⟩ := paired _ rfl
  rw [syscallHandleEvent_reads] at handled
  cases handled
  cases inside.symm.trans (AList.lookup_insert _)
  obtain ⟨number, -⟩ := Prod.mk.inj pair
  exact absurd number (by decide)

end StbEbpf.Agent
