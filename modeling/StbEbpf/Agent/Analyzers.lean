import Mathlib.Data.List.AList
import StbEbpf.Lib.CText
import StbEbpf.Lib.Tally

/-!
The recorders of `pkg/perf`: scheduling, memory and block I/O. A Go map is an association list, a time stamp the
nanoseconds of the monotonic clock.
-/

namespace StbEbpf.Agent
open CText

abbrev GoMap (κ α : Type) := AList fun _ : κ => α

/-- `uint64(ts.Sub(earlier).Nanoseconds())`; a duration is cut off at the range of an `int64`. -/
def elapsed (ts earlier : Int) : UInt64 := UInt64.ofInt (max (-2 ^ 63) (min (2 ^ 63 - 1) (ts - earlier)))

/-! ### Scheduling -/

structure CpuUsage where
  pid : UInt32
  runTimeNs : UInt64 := 0
  switchCount : UInt64 := 0
  wakeUpCount : UInt64 := 0
  wakeUpLatency : UInt64 := 0
  deriving DecidableEq, Repr

structure SchedAnalyzer where
  pidStats : GoMap UInt32 CpuUsage := ∅
  lastRunTime : GoMap UInt32 Int := ∅

namespace SchedAnalyzer

def addRun (a : SchedAnalyzer) (pid : UInt32) (runTime : UInt64) : SchedAnalyzer :=
  let stat := match a.pidStats.lookup pid with
    | some stat => { stat with runTimeNs := stat.runTimeNs + runTime, switchCount := stat.switchCount + 1 }
    | none => { pid, runTimeNs := runTime, switchCount := 1 }
  { a with pidStats := a.pidStats.insert pid stat }

def recordSwitch (a : SchedAnalyzer) (pid nextPid : UInt32) (prevState : Int64) (ts : Int) : SchedAnalyzer :=
  let a := if prevState = 0 then
      match a.lastRunTime.lookup pid with
      | some lastRun => a.addRun pid (elapsed ts lastRun)
      | none => a
    else a
  { a with lastRunTime := a.lastRunTime.insert nextPid ts }

def recordWakeUp (a : SchedAnalyzer) (pid : UInt32) (latencyNs : UInt64) : SchedAnalyzer :=
  let stat := match a.pidStats.lookup pid with
    | some stat => { stat with wakeUpCount := stat.wakeUpCount + 1, wakeUpLatency := stat.wakeUpLatency + latencyNs }
    | none => { pid, wakeUpCount := 1, wakeUpLatency := latencyNs }
  { a with pidStats := a.pidStats.insert pid stat }

def reset (_ : SchedAnalyzer) : SchedAnalyzer := {}

end SchedAnalyzer

/-! ### Memory -/

structure MemAllocRecord where
  timestamp : Int
  pid : UInt32
  comm : Bytes
  size : UInt64
  pointer : UInt64
  deriving DecidableEq, Repr

structure MemStats where
  pid : UInt32
  comm : Bytes
  totalAlloc : UInt64 := 0
  totalFree : UInt64 := 0
  currentAlloc : UInt64 := 0
  allocCount : UInt64 := 0
  freeCount : UInt64 := 0
  largeAlloc : UInt64 := 0
  deriving DecidableEq, Repr

structure MemLeakDetector where
  allocs : GoMap UInt64 MemAllocRecord := ∅
  stats : GoMap UInt32 MemStats := ∅

namespace MemLeakDetector

def statOf (d : MemLeakDetector) (pid : UInt32) (comm : Bytes) : MemStats :=
  (d.stats.lookup pid).getD { pid, comm }

def recordAlloc (d : MemLeakDetector) (now : Int) (pid : UInt32) (comm : Bytes) (size ptr : UInt64) :
    MemLeakDetector :=
  if ptr = 0 then d
  else
    let stat := d.statOf pid comm
    { allocs := d.allocs.insert ptr { timestamp := now, pid, comm, size, pointer := ptr }
      stats := d.stats.insert pid
        { stat with
          totalAlloc := stat.totalAlloc + size
          currentAlloc := stat.currentAlloc + size
          allocCount := stat.allocCount + 1
          largeAlloc := if size > 1024 * 1024 then stat.largeAlloc + 1 else stat.largeAlloc } }

def recordFree (d : MemLeakDetector) (pid : UInt32) (comm : Bytes) (ptr : UInt64) : MemLeakDetector :=
  match d.allocs.lookup ptr with
  | none => d
  | some alloc =>
    let stat := d.statOf pid comm
    { allocs := d.allocs.erase ptr
      stats := d.stats.insert pid
        { stat with
          totalFree := stat.totalFree + alloc.size
          currentAlloc := stat.currentAlloc - alloc.size
          freeCount := stat.freeCount + 1 } }

def reset (_ : MemLeakDetector) : MemLeakDetector := {}

end MemLeakDetector

/-! ### Block I/O -/

structure BlockIoRecord where
  timestamp : Int
  dev : UInt64
  sector : UInt64
  size : UInt64
  deriving DecidableEq, Repr

structure BlockIoStats where
  dev : UInt64
  readOps : UInt64 := 0
  readBytes : UInt64 := 0
  totalLatency : UInt64 := 0
  avgLatencyNs : UInt64 := 0
  maxLatencyNs : UInt64 := 0
  deriving DecidableEq, Repr

structure BlockIoAnalyzer where
  pending : GoMap UInt64 BlockIoRecord := ∅
  stats : GoMap UInt64 BlockIoStats := ∅
  histogram : GoMap UInt64 UInt64 := ∅

namespace BlockIoAnalyzer

/-- The key of a request, here and in the BPF program: sectors from 2^32 on run into the device. -/
def requestKey (dev sector : UInt64) : UInt64 := dev <<< 32 ||| sector

def recordIssue (a : BlockIoAnalyzer) (dev sector size : UInt64) (ts : Int) : BlockIoAnalyzer :=
  { a with pending := a.pending.insert (requestKey dev sector) { timestamp := ts, dev, sector, size } }

def recordComplete (a : BlockIoAnalyzer) (dev sector : UInt64) (ts : Int) : BlockIoAnalyzer :=
  let key := requestKey dev sector
  match a.pending.lookup key with
  | none => a
  | some record =>
    let latency := elapsed ts record.timestamp
    let stat := (a.stats.lookup dev).getD { dev }
    let bucket := latency / 100000
    { pending := a.pending.erase key
      stats := a.stats.insert dev
        { stat with
          totalLatency := stat.totalLatency + latency
          readOps := stat.readOps + 1
          readBytes := stat.readBytes + record.size
          maxLatencyNs := if latency > stat.maxLatencyNs then latency else stat.maxLatencyNs }
      histogram := a.histogram.insert bucket ((a.histogram.lookup bucket).getD 0 + 1) }

def withAverage (stat : BlockIoStats) : BlockIoStats :=
  if stat.readOps > 0 then { stat with avgLatencyNs := stat.totalLatency / stat.readOps } else stat

/-- The averages are set in the statistics themselves. They are listed by their operations; Go leaves the order of equal
ones open. -/
def getStats (a : BlockIoAnalyzer) : BlockIoAnalyzer × List BlockIoStats :=
  let stats := Tally.mapValues withAverage a.stats
  ({ a with stats }, (Tally.values stats).mergeSort fun one two => one.readOps ≥ two.readOps)

def reset (_ : BlockIoAnalyzer) : BlockIoAnalyzer := {}

/-- The operations counted for a device. -/
def operations (a : BlockIoAnalyzer) (dev : UInt64) : UInt64 := ((a.stats.lookup dev).map (·.readOps)).getD 0

theorem recordIssue_pending (a : BlockIoAnalyzer) (dev sector size : UInt64) (ts : Int) :
    requestKey dev sector ∈ (a.recordIssue dev sector size ts).pending :=
  (AList.mem_insert _).mpr (Or.inl rfl)

/-- A completed request that was pending is one more operation of its device. -/
theorem recordComplete_operations {a : BlockIoAnalyzer} {dev sector : UInt64}
    (pending : requestKey dev sector ∈ a.pending) (ts : Int) :
    (a.recordComplete dev sector ts).operations dev = a.operations dev + 1 := by
  obtain ⟨record, found⟩ := Option.isSome_iff_exists.mp (AList.lookup_isSome.mpr pending)
  unfold recordComplete operations
  dsimp only
  rw [found]
  dsimp only
  rw [AList.lookup_insert]
  cases a.stats.lookup dev <;> rfl

/-- Requests under other keys stay pending. -/
theorem recordComplete_pending {a : BlockIoAnalyzer} {key dev sector : UInt64} (other : key ≠ requestKey dev sector)
    (ts : Int) (pending : key ∈ a.pending) : key ∈ (a.recordComplete dev sector ts).pending := by
  unfold recordComplete
  dsimp only
  split
  · exact pending
  · exact AList.mem_erase.mpr ⟨other, pending⟩

end BlockIoAnalyzer

end StbEbpf.Agent
