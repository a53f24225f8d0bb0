import StbEbpf.Agent.TraceHandlers

/-!
Process events: the two tracepoint programs of `bpf/process_exec.bpf.c` and the collector behind them. The memory of a
record is not cleared, so the same event is looked at in two different memories.
-/

namespace StbEbpf.Agent
open CText Access

/-! ### The BPF programs -/

/-- `bpf_probe_read_user_str` into `data`: the string and its terminator, the rest as it was. -/
def copyArgument (text : CharBuf 256) (old : Vector UInt8 256) : Vector UInt8 256 :=
  ⟨(text.bytes ++ 0 :: old.toList.drop (text.bytes.length + 1)).toArray, by
    have fits := text.fits
    rw [List.size_toArray, List.length_append, List.length_cons, List.length_drop, old.length_toList]
    omega⟩

/-- A process that starts a program; `argument` is the string at `arg_start`, if that memory can be read. -/
structure ExecCall where
  task : Task
  ppid : UInt32
  argStart : UInt64
  argEnd : UInt64
  argument : Option CStr

namespace ExecCall

def argLen (call : ExecCall) : UInt64 :=
  if call.argEnd - call.argStart > 255 then 255 else call.argEnd - call.argStart

/-- The helper clears the whole array when it cannot read the string. -/
def data (call : ExecCall) (old : Vector UInt8 256) : Vector UInt8 256 :=
  if call.argLen > 0 then
    match call.argument with
    | some text => copyArgument (.strncpy text.bytes) old
    | none => padTo 256 []
  else old

/-- The string that ends up in the record. -/
def copied (call : ExecCall) : Bytes :=
  if call.argLen > 0 then
    match call.argument with
    | some text => (CharBuf.strncpy text.bytes : CharBuf 256).bytes
    | none => []
  else []

end ExecCall

def tracepointSchedProcessExec (call : ExecCall) (residue : BpfEvent) : BpfEvent :=
  { residue with
    timestampNs := call.task.now
    type := 4
    pid := call.task.pid
    ppid := call.ppid
    comm := call.task.array
    data := call.data residue.data }

def tracepointSchedProcessExit (task : Task) (ppid : UInt32) (residue : BpfEvent) : BpfEvent :=
  { residue with
    timestampNs := task.now
    type := 5
    pid := task.pid
    ppid
    comm := task.array }

/-! ### The collector -/

/-- The arguments of `WriteProcessEvent`. -/
structure ProcessReport where
  ts : Time
  probeId : Bytes
  pid : UInt32
  ppid : UInt32
  comm : Bytes
  exe : Bytes
  args : Bytes
  eventType : Bytes
  deriving DecidableEq

def performanceHandleEvent (r : Reporter) (data : Bytes) : Checked (Option ProcessReport) := do
  if data.length < 48 then return none
  else
    let _timestampNs ← readUint64 data 0
    let etype ← readUint32 data 8
    let pid ← readUint32 data 12
    let ppid ← readUint32 data 16
    let comm ← readRange data 72 16
    let argData ← readRange data 88 256
    if etype = 4 then
      return some { ts := r.now, probeId := r.probeId, pid, ppid, comm := trimNul comm, exe := [], args := trimNul argData,
                    eventType := ascii "execve" }
    else if etype = 5 then
      return some { ts := r.now, probeId := r.probeId, pid, ppid, comm := trimNul comm, exe := [], args := [],
                    eventType := ascii "exit" }
    else return none

theorem performanceHandleEvent_reads (r : Reporter) (e : BpfEvent) :
    performanceHandleEvent r e.sample = .ok (
      if e.type = 4 then some
        { ts := r.now, probeId := r.probeId, pid := e.pid, ppid := e.ppid, comm := trimNul e.comm.toList, exe := [],
          args := trimNul e.data.toList, eventType := ascii "execve" }
      else if e.type = 5 then some
        { ts := r.now, probeId := r.probeId, pid := e.pid, ppid := e.ppid, comm := trimNul e.comm.toList, exe := [],
          args := [], eventType := ascii "exit" }
      else none) := by
  unfold performanceHandleEvent
  rw [if_neg (sample_long e), e.timestampNs_read, ok_bind, e.type_read, ok_bind, e.pid_read, ok_bind, e.ppid_read, ok_bind,
    e.comm_read, ok_bind, e.data_read, ok_bind]
  split_ifs <;> rfl

/-! ### What is left of the old memory -/

inductive ProcessSeen where
  | exec (call : ExecCall)
  | exit (task : Task) (ppid : UInt32)

namespace ProcessSeen

def record (seen : ProcessSeen) (residue : BpfEvent) : BpfEvent :=
  match seen with
  | exec call => tracepointSchedProcessExec call residue
  | exit task ppid => tracepointSchedProcessExit task ppid residue

/-- The report does not depend on the old memory, and that of a started program has the copied string as its
arguments. -/
structure Clean (r : Reporter) (seen : ProcessSeen) : Prop where
  same : ∀ residue other, performanceHandleEvent r (seen.record residue).sample =
    performanceHandleEvent r (seen.record other).sample
  args : ∀ call, seen = .exec call → ∀ residue, ∃ report,
    performanceHandleEvent r (seen.record residue).sample = .ok (some report) ∧ report.args = call.copied

/-- Every byte of `data` that the collector looks at is written: there is nothing to copy for an exit, and a string
fills the array when it has 255 bytes or more, or cannot be read. -/
def Overwrites : ProcessSeen → Prop
  | exec call => call.argLen > 0 ∧ ∀ text, call.argument = some text → 255 ≤ text.bytes.length
  | exit .. => True

end ProcessSeen

/-- In a given memory: the arguments are the copied string exactly when only zeros stand behind it. -/
theorem trimNul_copyArgument_iff (text : CharBuf 256) (old : Vector UInt8 256) :
    trimNul (copyArgument text old).toList = text.bytes ↔ ∀ byte ∈ old.toList.drop (text.bytes.length + 1), byte = 0 :=
  trimNul_terminated_iff text.noNul _

theorem strncpy_length (text : CStr) :
    (CharBuf.strncpy text.bytes : CharBuf 256).bytes.length = min 255 text.bytes.length := by
  show ((cut text.bytes).take 255).length = _
  rw [cut_eq_self text.noNul, List.length_take]

/-- Memory that was never cleared. -/
def ones : Vector UInt8 256 := Vector.replicate 256 1

theorem ones_left {n : Nat} (inside : n < 256) : 1 ∈ ones.toList.drop n := by
  rw [ones, Vector.toList_replicate, List.drop_replicate, List.mem_replicate]
  exact ⟨by omega, rfl⟩

theorem copied_always_iff (call : ExecCall) :
    (∀ old, trimNul (call.data old).toList = call.copied) ↔ (ProcessSeen.exec call).Overwrites := by
  unfold ExecCall.data ExecCall.copied ProcessSeen.Overwrites
  by_cases some_ : call.argLen > 0
  · simp only [some_, if_true, true_and]
    cases argument : call.argument with
    | none =>
      have cleared : trimNul (padTo 256 []).toList = [] := by
        apply trimNul_eq_nil.mpr
        intro byte member
        rw [padTo_toList (Nat.zero_le _), List.nil_append] at member
        exact List.eq_of_mem_replicate member
      simp [cleared]
    | some text =>
      simp only [trimNul_copyArgument_iff, strncpy_length, Option.some.injEq]
      constructor
      · rintro clean _ rfl
        by_contra short
        exact absurd (clean ones 1 (ones_left (by omega))) (by decide)
      · intro long old byte member
        have fills := long text rfl
        rw [List.drop_of_length_le (by rw [old.length_toList]; omega)] at member
        cases member
  · simp only [some_, if_false, false_and, iff_false, not_forall]
    refine ⟨ones, ?_⟩
    intro empty
    exact absurd (trimNul_eq_nil.mp empty 1 (List.mem_of_mem_drop (ones_left (Nat.zero_lt_succ 255)))) (by decide)

theorem process_events_clean_iff (r : Reporter) (seen : ProcessSeen) : seen.Clean r ↔ seen.Overwrites := by
  cases seen with
  | exit task ppid =>
    refine ⟨fun _ => trivial, fun _ => ⟨?_, fun call absurd => by cases absurd⟩⟩
    intro residue other
    rw [performanceHandleEvent_reads, performanceHandleEvent_reads]
    rfl
  | exec call =>
    rw [← copied_always_iff]
    constructor
    · intro clean old
      obtain ⟨report, handled, args⟩ := clean.args call rfl { zeroRecord with data := old }
      rw [performanceHandleEvent_reads] at handled
      cases handled
      exact args
    · intro always
      have handled (residue : BpfEvent) := performanceHandleEvent_reads r (tracepointSchedProcessExec call residue)
      refine ⟨?_, ?_⟩
      · intro residue other
        refine (handled residue).trans (Eq.trans ?_ (handled other).symm)
        simp only [tracepointSchedProcessExec, always, if_true]
      · rintro _ ⟨⟩ residue
        exact ⟨_, handled residue, always residue.data⟩

/-- The program `ls`, in the memory of an older record. -/
def execLs : ProcessSeen := .exec ⟨⟨0, 1, .zero⟩, 0, 0, 3, some (.ofBytes (ascii "ls"))⟩

theorem exec_shows_old_memory : ¬ execLs.Clean ⟨.unix 0, []⟩ := by
  intro clean
  obtain ⟨report, handled, args⟩ := clean.args _ rfl { zeroRecord with data := ones }
  rw [performanceHandleEvent_reads] at handled
  cases handled
  revert args
  decide

end StbEbpf.Agent
