import StbEbpf.Agent.BlockPairing

/-!
What the collectors for scheduling, memory and block I/O report. In `sched_trace.go`, `mem_trace.go` and `block_trace.go`
the loop that reads the records and the one that runs `flush` every 30 seconds share an analyzer without a lock: a flush
lists the statistics, writes them one by one and resets the analyzer, and records are handled in between.
-/

namespace StbEbpf.Agent
open CText Access Tally

/-! ### The collectors -/

/-- The order in which Go ranges over a map. -/
structure MapOrder (α : Type) where
  run : List α → List α
  perm : ∀ entries, (run entries).Perm entries

def SchedAnalyzer.getTopCpuUsage (a : SchedAnalyzer) (order : MapOrder CpuUsage) (n : Nat) : List CpuUsage :=
  ((order.run (values a.pidStats)).mergeSort fun one two => one.runTimeNs ≥ two.runTimeNs).take n

def performanceEvent (r : Reporter) (eventType details tags : Bytes) : Event :=
  { timestamp := r.now, probeId := r.probeId, category := ascii "performance", eventType, details, tags }

-- Nothing sets `CPUUsagePct`, and below neither `IOPS` nor `ThroughputBps`: zeros are printed.
def schedReport (r : Reporter) (stat : CpuUsage) : Event :=
  performanceEvent r (ascii "sched")
    (ascii "pid=" ++ decimal stat.pid.toNat ++ ascii " cpu=0.0% switches=" ++ decimal stat.switchCount.toNat)
    (ascii "wakeup=" ++ decimal stat.wakeUpCount.toNat)

def memReport (r : Reporter) (pid : UInt32) (stat : MemStats) : Event :=
  performanceEvent r (ascii "mem")
    (ascii "pid=" ++ decimal pid.toNat ++ ascii " alloc=" ++ decimal stat.allocCount.toNat ++
      ascii " free=" ++ decimal stat.freeCount.toNat ++ ascii " current=" ++ decimal stat.currentAlloc.toNat)
    (ascii "large=" ++ decimal stat.largeAlloc.toNat)

def blockReport (r : Reporter) (stat : BlockIoStats) : Event :=
  performanceEvent r (ascii "block")
    (ascii "dev=" ++ decimal stat.dev.toNat ++ ascii " iops=0 bw=0B/s")
    (ascii "avg=" ++ decimal stat.avgLatencyNs.toNat ++ ascii "ns,max=" ++ decimal stat.maxLatencyNs.toNat ++ ascii "ns")

/-- Where a flush loop stands: before its next flush, or in one with what it has still to write. -/
abbrev Flush (κ : Type) := Option (List κ)

/-- The next step of a flush loop: it lists the statistics, writes the report of one, or resets. Statistics change in
place, so that a listed pointer is as good as its key. Nothing is handled while they are being listed: Go ends a process
that writes to a map it ranges over. -/
def flushStep {σ κ : Type} (list : σ → σ × List κ) (report : σ → κ → Option Event) (reset : σ → σ) (analyzer : σ) :
    Flush κ → σ × Flush κ × List Event
  | none => ((list analyzer).1, some (list analyzer).2, [])
  | some (key :: rest) => (analyzer, some rest, (report analyzer key).toList)
  | some [] => (reset analyzer, none, [])

/-- The map of the BPF programs, the recorders of the three collectors, their flush loops and what these have written. The
last two fields are history: the processes of the wake-ups that were read since the scheduler's last reset, and whether
a request had no sectors or a multiple of 4 GiB. -/
structure PerfTrace where
  starts : BlockStart := ∅
  sched : SchedAnalyzer := {}
  mem : MemLeakDetector := {}
  block : BlockIoAnalyzer := {}
  schedFlush : Flush UInt32 := none
  memFlush : Flush UInt32 := none
  blockFlush : Flush UInt64 := none
  written : List Event := []
  woken : List UInt32 := []
  whole : Bool := false

/-- A record is seen by the kernel and handled by its collector, or a flush loop goes one step on. A record that is
handled after a step counts as seen after it: the programs take no notice of a flush. -/
inductive PerfStep where
  | seen (seen : Seen) (passage : Passage)
  | flushSched (now : Time) (order : MapOrder CpuUsage)
  | flushMem (now : Time) (order : MapOrder UInt32)
  | flushBlock (now : Time)

def PerfStep.whole : PerfStep → Bool
  | .seen (.issue _ _ _ nrSector) _ => nrSector.toNat % 2 ^ 23 = 0
  | _ => false

namespace PerfTrace

def record (s : PerfTrace) (ts : Int) : Option RecorderCall → PerfTrace
  | some (.recordSwitch pid nextPid prevState) => { s with sched := s.sched.recordSwitch pid nextPid prevState ts }
  | some (.recordWakeUp pid latencyNs) => { s with sched := s.sched.recordWakeUp pid latencyNs }
  | some (.recordAlloc pid comm size ptr) => { s with mem := s.mem.recordAlloc ts pid comm size ptr }
  | some (.recordFree pid comm ptr) => { s with mem := s.mem.recordFree pid comm ptr }
  | some (.recordIssue dev sector size) => { s with block := s.block.recordIssue dev sector size ts }
  | some (.recordComplete dev sector) => { s with block := s.block.recordComplete dev sector ts }
  | none => s

def observe (s : PerfTrace) (seen : Seen) (passage : Passage) : Checked PerfTrace := do
  let (record, starts) := seen.submit s.starts passage.residue
  let call ← match record with
    | some record => if passage.reserved then seen.handle record.sample else pure none
    | none => pure none
  return { s with starts }.record passage.ts call

variable (probeId : Bytes)

def flushSched (now : Time) (order : MapOrder CpuUsage) (s : PerfTrace) : PerfTrace :=
  let (sched, schedFlush, reports) := flushStep (fun a => (a, (a.getTopCpuUsage order 10).map CpuUsage.pid))
    (fun a pid => (a.pidStats.lookup pid).map (schedReport ⟨now, probeId⟩)) SchedAnalyzer.reset s.sched s.schedFlush
  { s with sched, schedFlush, written := s.written ++ reports }

def flushMem (now : Time) (order : MapOrder UInt32) (s : PerfTrace) : PerfTrace :=
  let (mem, memFlush, reports) := flushStep (fun d => (d, order.run d.stats.keys))
    (fun d pid => (d.stats.lookup pid).map (memReport ⟨now, probeId⟩ pid)) MemLeakDetector.reset s.mem s.memFlush
  { s with mem, memFlush, written := s.written ++ reports }

def flushBlock (now : Time) (s : PerfTrace) : PerfTrace :=
  let (block, blockFlush, reports) := flushStep (fun a => (a.getStats.1, a.getStats.2.map BlockIoStats.dev))
    (fun a dev => (a.stats.lookup dev).map (blockReport ⟨now, probeId⟩)) BlockIoAnalyzer.reset s.block s.blockFlush
  { s with block, blockFlush, written := s.written ++ reports }

def wokenAfter (s : PerfTrace) : PerfStep → List UInt32
  | .seen (.wakeUp _ _ pid) passage => if passage.reserved then s.woken ++ [pid] else s.woken
  | .flushSched .. => if s.schedFlush = some [] then [] else s.woken
  | _ => s.woken

def step (s : PerfTrace) (step : PerfStep) : Checked PerfTrace := do
  let t ← match step with
    | .seen seen passage => s.observe seen passage
    | .flushSched now order => pure (s.flushSched probeId now order)
    | .flushMem now order => pure (s.flushMem probeId now order)
    | .flushBlock now => pure (s.flushBlock probeId now)
  return { t with woken := s.wokenAfter step, whole := s.whole || step.whole }

def run (steps : List PerfStep) : Checked PerfTrace := steps.foldlM (step probeId) {}

end PerfTrace

/-! ### What is left of the records -/

def wakeUsage (woken : List UInt32) (pid : UInt32) : CpuUsage := { pid, wakeUpCount := UInt64.ofNat (woken.count pid) }

/-- No completion has found its request, and none can. -/
def BlockIoAnalyzer.Unpaired (a : BlockIoAnalyzer) : Prop := a.stats = ∅ ∧ ∀ key ∈ a.pending, key.toNat % 2 ^ 32 ≠ 0

/-- Only wake-ups are counted, nothing is known of memory, and no completion finds its request. -/
structure PerfTrace.Follows (s : PerfTrace) : Prop where
  sched (pid : UInt32) : s.sched.pidStats.lookup pid = if pid ∈ s.woken then some (wakeUsage s.woken pid) else none
  listed : ∀ pids ∈ s.schedFlush, pids ⊆ s.woken
  mem : s.mem = {} ∧ ∀ pids ∈ s.memFlush, pids = []
  block : s.whole = true ∨ s.block.Unpaired ∧ ∀ devs ∈ s.blockFlush, devs = []

namespace PerfTrace

theorem observe_calls (s : PerfTrace) (seen : Seen) (passage : Passage) :
    ∃ starts, s.observe seen passage = .ok ({ s with starts }.record passage.ts
      (if (seen.submit s.starts passage.residue).1.isSome ∧ passage.reserved then seen.call else none)) := by
  refine ⟨(seen.submit s.starts passage.residue).2, ?_⟩
  unfold observe
  rcases submitted : seen.submit s.starts passage.residue with ⟨_ | record, starts⟩
  · rfl
  · have handled : seen.handle record.sample = .ok seen.call := handle_submitted (congrArg Prod.fst submitted)
    dsimp only
    rw [handled]
    cases passage.reserved <;> rfl

/-! ### Step by step -/

/-- One more wake-up of a process. -/
theorem recordWakeUp_counts {a : SchedAnalyzer} {woken : List UInt32}
    (counted : ∀ pid, a.pidStats.lookup pid = if pid ∈ woken then some (wakeUsage woken pid) else none)
    (pid other : UInt32) :
    (a.recordWakeUp pid 0).pidStats.lookup other =
      if other ∈ woken ++ [pid] then some (wakeUsage (woken ++ [pid]) other) else none := by
  unfold SchedAnalyzer.recordWakeUp
  dsimp only
  by_cases same : other = pid
  · subst same
    have grown : wakeUsage (woken ++ [other]) other =
        { pid := other, wakeUpCount := UInt64.ofNat (woken.count other) + 1 } := by
      unfold wakeUsage
      rw [List.count_append, List.count_singleton_self, UInt64.ofNat_add]
      rfl
    rw [AList.lookup_insert, if_pos (by simp), grown, counted other]
    by_cases before : other ∈ woken
    · rw [if_pos before]
      rfl
    · rw [if_neg before, List.count_eq_zero_of_not_mem before]
      rfl
  · have unmoved : wakeUsage (woken ++ [pid]) other = wakeUsage woken other := by
      unfold wakeUsage
      rw [List.count_append, List.count_singleton, if_neg (by simpa using Ne.symm same), Nat.add_zero]
    rw [AList.lookup_insert_ne same, counted other, unmoved]
    simp [same]

/-- The bytes of a request fill the low half of a word unless they are a multiple of 4 GiB. -/
theorem requestKey_bytes (pid nrSector : UInt32) :
    (BlockIoAnalyzer.requestKey pid.toUInt64 (nrSector.toUInt64 * 512)).toNat % 2 ^ 32 = 0 ↔ nrSector.toNat % 2 ^ 23 = 0 := by
  have small := nrSector.toNat_lt
  have bytes : (nrSector.toUInt64 * 512).toNat = nrSector.toNat * 512 := by
    rw [UInt64.toNat_mul, UInt32.toNat_toUInt64]
    show nrSector.toNat * 512 % 2 ^ 64 = _
    omega
  rw [requestKey_toNat, bytes]
  omega

namespace Follows
variable {s : PerfTrace}

theorem whole_later {P : Prop} (either : s.whole = true ∨ P) (whole : Bool) : (s.whole || whole) = true ∨ P :=
  either.imp_left fun earlier => by rw [earlier, Bool.true_or]

/-- Nothing but the map of the programs changes. -/
theorem silent (follows : s.Follows) (starts : BlockStart) (whole : Bool) :
    { s with starts, whole := s.whole || whole }.Follows :=
  ⟨follows.sched, follows.listed, follows.mem, whole_later follows.block whole⟩

theorem wakeUp (follows : s.Follows) (pid : UInt32) (starts : BlockStart) (whole : Bool) :
    { s with
      starts
      sched := s.sched.recordWakeUp pid 0
      woken := s.woken ++ [pid]
      whole := s.whole || whole }.Follows where
  sched other := recordWakeUp_counts follows.sched pid other
  listed pids member := List.subset_append_of_subset_left _ (follows.listed pids member)
  mem := follows.mem
  block := whole_later follows.block whole

theorem issue (follows : s.Follows) (pid nrSector : UInt32) (ts : Int) (starts : BlockStart) :
    { s with
      starts
      block := s.block.recordIssue pid.toUInt64 (nrSector.toUInt64 * 512) 0 ts
      whole := s.whole || decide (nrSector.toNat % 2 ^ 23 = 0) }.Follows where
  sched := follows.sched
  listed := follows.listed
  mem := follows.mem
  block := by
    by_cases whole : nrSector.toNat % 2 ^ 23 = 0
    · exact .inl (by rw [decide_eq_true whole, Bool.or_true])
    · refine (whole_later follows.block _).imp_right ?_
      rintro ⟨⟨unknown, low⟩, idle⟩
      refine ⟨⟨unknown, fun key pending => ?_⟩, idle⟩
      rcases (AList.mem_insert _).mp pending with rfl | earlier
      · exact fun zero => whole ((requestKey_bytes ..).mp zero)
      · exact low key earlier

theorem complete (follows : s.Follows) (pid : UInt32) (ts : Int) (starts : BlockStart) (whole : Bool) :
    { s with
      starts
      block := s.block.recordComplete pid.toUInt64 0 ts
      whole := s.whole || whole }.Follows where
  sched := follows.sched
  listed := follows.listed
  mem := follows.mem
  block := by
    refine (whole_later follows.block whole).imp_right ?_
    rintro ⟨⟨unknown, low⟩, idle⟩
    have key : (BlockIoAnalyzer.requestKey pid.toUInt64 0).toNat % 2 ^ 32 = 0 := by
      have zero : (0 : UInt64).toNat = 0 := rfl
      rw [requestKey_toNat, zero]
      omega
    have missing : s.block.pending.lookup (BlockIoAnalyzer.requestKey pid.toUInt64 0) = none :=
      AList.lookup_eq_none.mpr fun pending => low _ pending key
    have unchanged : s.block.recordComplete pid.toUInt64 0 ts = s.block := by
      unfold BlockIoAnalyzer.recordComplete
      dsimp only
      rw [missing]
    dsimp only
    rw [unchanged]
    exact ⟨⟨unknown, low⟩, idle⟩

variable (probeId : Bytes)

/-- A record leaves the collectors as they should be, whatever it was. -/
theorem observe (follows : s.Follows) (seen : Seen) (passage : Passage) :
    ∃ t, s.step probeId (.seen seen passage) = .ok t ∧ t.Follows := by
  obtain ⟨starts, observed⟩ := s.observe_calls seen passage
  refine ⟨_, by unfold PerfTrace.step; dsimp only; rw [observed]; rfl, ?_⟩
  cases seen with
  | wakeUp now comm pid =>
    have after : s.wokenAfter (.seen (.wakeUp now comm pid) passage) =
        if passage.reserved then s.woken ++ [pid] else s.woken := rfl
    rw [after]
    cases passage.reserved with
    | true => exact follows.wakeUp pid starts _
    | false => exact follows.silent starts _
  | switch => split <;> exact follows.silent starts _
  | kmalloc => split <;> exact follows.silent starts _
  | kfree task objp =>
    split
    · have unknown : s.mem.recordFree task.pid [] 0 = s.mem := by
        rw [follows.mem.1]
        rfl
      show PerfTrace.Follows { s with starts, mem := s.mem.recordFree task.pid [] 0, whole := _ }
      rw [unknown]
      exact follows.silent starts _
    · exact follows.silent starts _
  | issue task dev sector nrSector =>
    split
    · exact follows.issue task.pid nrSector passage.ts starts
    · exact follows.silent starts _
  | complete task dev sector =>
    split
    · exact follows.complete task.pid passage.ts starts _
    · exact follows.silent starts _

/-! ### Flushes -/

/-- At most ten of the processes that were woken are listed, all of them without a run. -/
theorem topCpuUsage (follows : s.Follows) (order : MapOrder CpuUsage) :
    ∃ chosen : List UInt32, (s.sched.getTopCpuUsage order 10).map CpuUsage.pid = chosen ∧
      chosen.Nodup ∧ chosen ⊆ s.woken ∧ chosen.length = min 10 s.woken.dedup.length := by
  have sorted : ((order.run (values s.sched.pidStats)).mergeSort fun one two => one.runTimeNs ≥ two.runTimeNs).Perm
      (s.woken.dedup.map (wakeUsage s.woken)) :=
    (List.mergeSort_perm ..).trans ((order.perm _).trans (values_of_lookup follows.sched))
  have pids := sorted.map CpuUsage.pid
  rw [List.map_map, show CpuUsage.pid ∘ wakeUsage s.woken = id from rfl, List.map_id] at pids
  refine ⟨_, by unfold SchedAnalyzer.getTopCpuUsage; rw [List.map_take], ?_, ?_, ?_⟩
  · exact (pids.nodup_iff.mpr (List.nodup_dedup _)).sublist (List.take_sublist ..)
  · intro pid member
    exact List.mem_dedup.mp (pids.subset (List.mem_of_mem_take member))
  · rw [List.length_take, pids.length_eq]

end Follows

section
variable {s : PerfTrace} (probeId : Bytes) (now : Time) (order : MapOrder CpuUsage)

theorem flushSched_lists (waits : s.schedFlush = none) :
    s.flushSched probeId now order =
      { s with schedFlush := some ((s.sched.getTopCpuUsage order 10).map CpuUsage.pid) } := by
  unfold flushSched
  rw [waits]
  show { s with schedFlush := _, written := s.written ++ [] } = _
  rw [List.append_nil]

theorem flushSched_writes {pid : UInt32} {rest : List UInt32} (listed : s.schedFlush = some (pid :: rest)) :
    s.flushSched probeId now order = { s with
      schedFlush := some rest
      written := s.written ++ ((s.sched.pidStats.lookup pid).map (schedReport ⟨now, probeId⟩)).toList } := by
  unfold flushSched
  rw [listed]
  rfl

theorem flushSched_resets (done : s.schedFlush = some []) :
    s.flushSched probeId now order = { s with schedFlush := none, sched := {} } := by
  unfold flushSched
  rw [done]
  show { s with schedFlush := none, sched := {}, written := s.written ++ [] } = _
  rw [List.append_nil]

end

namespace Follows
variable {s : PerfTrace} (probeId : Bytes)

theorem flushSched (follows : s.Follows) (now : Time) (order : MapOrder CpuUsage) :
    ∃ t, s.step probeId (.flushSched now order) = .ok t ∧ t.Follows := by
  have after : s.wokenAfter (.flushSched now order) = if s.schedFlush = some [] then [] else s.woken := rfl
  refine ⟨_, rfl, ?_⟩
  rw [after]
  rcases stands : s.schedFlush with _ | _ | ⟨pid, rest⟩
  · obtain ⟨chosen, top, -, inside, -⟩ := follows.topCpuUsage order
    rw [flushSched_lists probeId now order stands, top, if_neg nofun]
    exact ⟨follows.sched, by rintro pids ⟨⟩; exact inside, follows.mem, whole_later follows.block _⟩
  · rw [flushSched_resets probeId now order stands, if_pos rfl]
    exact ⟨fun _ => rfl, nofun, follows.mem, whole_later follows.block _⟩
  · have inside := follows.listed _ stands
    rw [flushSched_writes probeId now order stands, if_neg nofun]
    exact ⟨follows.sched, by rintro pids ⟨⟩; exact fun other member => inside (List.mem_cons_of_mem _ member), follows.mem,
      whole_later follows.block _⟩

theorem idleMem (follows : s.Follows) (now : Time) (order : MapOrder UInt32) :
    ((s.flushMem probeId now order).mem = {} ∧ ∀ pids ∈ (s.flushMem probeId now order).memFlush, pids = []) ∧
      (s.flushMem probeId now order).written = s.written := by
  obtain ⟨known, idle⟩ := follows.mem
  have nothing : order.run s.mem.stats.keys = [] := by
    rw [known]
    exact (order.perm []).eq_nil
  unfold flushMem
  cases stands : s.memFlush with
  | none => exact ⟨⟨known, by rintro pids ⟨⟩; exact nothing⟩, List.append_nil _⟩
  | some pids =>
    obtain rfl := idle pids stands
    exact ⟨⟨rfl, nofun⟩, List.append_nil _⟩

theorem idleBlock (unpaired : s.block.Unpaired) (idle : ∀ devs ∈ s.blockFlush, devs = []) (now : Time) :
    ((s.flushBlock probeId now).block.Unpaired ∧ ∀ devs ∈ (s.flushBlock probeId now).blockFlush, devs = []) ∧
      (s.flushBlock probeId now).written = s.written := by
  obtain ⟨unknown, low⟩ := unpaired
  have empty : mapValues BlockIoAnalyzer.withAverage s.block.stats = ∅ := by
    rw [unknown]
    rfl
  have nothing : s.block.getStats.2.map BlockIoStats.dev = [] := by
    unfold BlockIoAnalyzer.getStats
    dsimp only
    rw [empty, show values (∅ : GoMap UInt64 BlockIoStats) = [] from rfl, List.mergeSort_nil, List.map_nil]
  unfold flushBlock
  cases stands : s.blockFlush with
  | none => exact ⟨⟨⟨empty, low⟩, by rintro devs ⟨⟩; exact nothing⟩, List.append_nil _⟩
  | some devs =>
    obtain rfl := idle devs stands
    exact ⟨⟨⟨rfl, fun _ pending => absurd pending (AList.notMem_empty _)⟩, nofun⟩, List.append_nil _⟩

theorem step (follows : s.Follows) (last : PerfStep) : ∃ t, s.step probeId last = .ok t ∧ t.Follows := by
  cases last with
  | seen seen passage => exact follows.observe probeId seen passage
  | flushSched now order => exact follows.flushSched probeId now order
  | flushMem now order =>
    exact ⟨_, rfl, follows.sched, follows.listed, (follows.idleMem probeId now order).1, whole_later follows.block _⟩
  | flushBlock now =>
    refine ⟨_, rfl, follows.sched, follows.listed, follows.mem, whole_later (follows.block.imp_right ?_) _⟩
    rintro ⟨unpaired, idle⟩
    exact (idleBlock probeId unpaired idle now).1

theorem run (steps : List PerfStep) : ∃ s, PerfTrace.run probeId steps = .ok s ∧ s.Follows := by
  induction steps using List.reverseRecOn with
  | nil =>
    refine ⟨{}, rfl, fun _ => rfl, nofun, ⟨rfl, nofun⟩, .inr ⟨⟨rfl, ?_⟩, nofun⟩⟩
    exact fun _ pending => absurd pending (AList.notMem_empty _)
  | append_singleton earlier last ih =>
    obtain ⟨s, reached, follows⟩ := ih
    obtain ⟨t, stepped, follows⟩ := follows.step probeId last
    refine ⟨t, ?_, follows⟩
    unfold PerfTrace.run at reached ⊢
    rw [List.foldlM_append, reached]
    show List.foldlM (PerfTrace.step probeId) s [last] = .ok t
    rw [List.foldlM_cons, stepped]
    rfl

end Follows

end PerfTrace

/-- The report of a process that was woken so many times. -/
def wakeReport (r : Reporter) (pid : UInt32) (wakeUps : Nat) : Event :=
  performanceEvent r (ascii "sched") (ascii "pid=" ++ decimal pid.toNat ++ ascii " cpu=0.0% switches=0")
    (ascii "wakeup=" ++ decimal (wakeUps % 2 ^ 64))

theorem schedReport_woken (r : Reporter) (woken : List UInt32) (pid : UInt32) :
    schedReport r (wakeUsage woken pid) = wakeReport r pid (woken.count pid) := by
  have zero : ascii " cpu=0.0% switches=" ++ decimal 0 = ascii " cpu=0.0% switches=0" := by decide +kernel
  unfold schedReport wakeReport wakeUsage
  dsimp only
  rw [UInt64.toNat_ofNat', List.append_assoc, ← zero, List.append_assoc]
  rfl

/-- What the flush loops do next, for any state they are in. -/
structure PerfTrace.Reports (probeId : Bytes) (s : PerfTrace) : Prop where
  lists (now : Time) (order : MapOrder CpuUsage) : s.schedFlush = none → ∃ chosen : List UInt32,
    s.flushSched probeId now order = { s with schedFlush := some chosen } ∧
      chosen.Nodup ∧ chosen ⊆ s.woken ∧ chosen.length = min 10 s.woken.dedup.length
  writes (now : Time) (order : MapOrder CpuUsage) (pid : UInt32) (rest : List UInt32) :
    s.schedFlush = some (pid :: rest) → s.flushSched probeId now order = { s with
      schedFlush := some rest
      written := s.written ++ [wakeReport ⟨now, probeId⟩ pid (s.woken.count pid)] }
  resets (now : Time) (order : MapOrder CpuUsage) : s.schedFlush = some [] →
    s.flushSched probeId now order = { s with schedFlush := none, sched := {} }
  unrun (pid : UInt32) : ∀ stat ∈ s.sched.pidStats.lookup pid, stat.runTimeNs = 0 ∧ stat.switchCount = 0
  mem (now : Time) (order : MapOrder UInt32) : (s.flushMem probeId now order).written = s.written
  block (now : Time) : s.whole = true ∨ (s.flushBlock probeId now).written = s.written

/-- After any run: the scheduler's flush lists at most ten of the processes woken since the last reset and reports each with
its wake-ups up to that moment, without switches or run time; what comes later is lost in the reset. There is never a
report about memory, and none about a block device unless a request had no sectors or a multiple of 4 GiB. -/
theorem perf_reports (probeId : Bytes) (steps : List PerfStep) :
    ∃ s, PerfTrace.run probeId steps = .ok s ∧ s.Reports probeId := by
  obtain ⟨s, reached, follows⟩ := PerfTrace.Follows.run probeId steps
  refine ⟨s, reached, ?_, ?_, fun now order => PerfTrace.flushSched_resets probeId now order, ?_, ?_, ?_⟩
  · intro now order waits
    obtain ⟨chosen, top, listed⟩ := follows.topCpuUsage order
    exact ⟨chosen, by rw [PerfTrace.flushSched_lists probeId now order waits, top], listed⟩
  · intro now order pid rest listed
    have woken : pid ∈ s.woken := follows.listed _ listed List.mem_cons_self
    rw [PerfTrace.flushSched_writes probeId now order listed, follows.sched, if_pos woken, ← schedReport_woken]
    rfl
  · intro pid stat found
    rw [follows.sched] at found
    split at found
    · cases found
      exact ⟨rfl, rfl⟩
    · cases found
  · exact fun now order => (follows.idleMem probeId now order).2
  · exact fun now => follows.block.imp_right fun ⟨unpaired, idle⟩ =>
      (PerfTrace.Follows.idleBlock probeId unpaired idle now).2

end StbEbpf.Agent
