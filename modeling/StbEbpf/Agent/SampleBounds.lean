import StbEbpf.Agent.NetworkFlow
import StbEbpf.Agent.PerfHandlers
import StbEbpf.Agent.ProcessEvents
import StbEbpf.Agent.Syscalls

/-!
The handlers of the collectors on samples of any length: which of them slice beyond the end of a sample that their
length check lets through. A sample of the ring buffer is a slice that ends with its array.
-/

namespace StbEbpf.Agent
open CText Access Words NetworkOrder

/-! ### The security collector and the HTTP events -/

structure FileReport where
  ts : Time
  probeId : Bytes
  pid : UInt32
  comm : Bytes
  filename : Bytes
  operation : Bytes
  result : Int32
  deriving DecidableEq, Repr

theorem nanos_lt (ns : Int) : (ns % 1000000000).toNat < 1000000000 := by omega

/-- `time.Unix(0, int64(timestampNs) + clockOffset)` in the zone of the host. -/
def ebpfTimeToWallTime (clockOffset : Int64) (zone : Int) (timestampNs : UInt64) : Time :=
  let ns := (timestampNs.toInt64 + clockOffset).toInt
  { seconds := ns / 1000000000, nanos := ⟨(ns % 1000000000).toNat, nanos_lt ns⟩, zone }

/-- What a handler hands on: to the output, or to an analyzer. -/
inductive HandedOn where
  | event (event : Event)
  | file (report : FileReport)
  | process (report : ProcessReport)
  | syscall (report : SyscallReport)
  | recorder (call : RecorderCall)

/-- `SecurityCollector.handleEvent`. -/
def fileHandleEvent (r : Reporter) (clockOffset : Int64) (data : Bytes) : Checked (Option HandedOn) := do
  if data.length < 48 then return none
  else
    let timestampNs ← readUint64 data 0
    let etype ← readUint32 data 8
    let pid ← readUint32 data 12
    let comm ← readRange data 72 16
    let rawData ← readRange data 88 256
    let now := ebpfTimeToWallTime clockOffset r.now.zone timestampNs
    if etype = 6 then
      return some (.file { ts := now, probeId := r.probeId, pid, comm := trimNul comm, filename := cut rawData,
                           operation := ascii "open", result := 0 })
    else if etype = 7 then
      return some (.event { timestamp := now, probeId := r.probeId, category := ascii "security"
                            eventType := ascii "connect"
                            details := ascii "pid=" ++ decimal pid.toNat ++ ascii " comm=" ++ trimNul comm })
    else return none

/-- `NetworkCollector.handleHTTPEvent`. -/
def handleHTTPEvent (r : Reporter) (data : Bytes) : Checked (Option Event) := do
  if data.length < 24 then return none
  else
    let _ts ← readUint64 data 0
    let srcIp ← readWord32 data 8
    let dstIp ← readWord32 data 12
    let srcPort ← readUint16 data 16
    let dstPort ← readUint16 data 18
    let url := unpadded (← readRange data 21 (data.length - 21))
    if url = [] then return none
    else return some {
      timestamp := r.now, probeId := r.probeId ++ ascii "-bpf", category := ascii "network", eventType := ascii "http"
      srcIp := ipToString srcIp, dstIp := ipToString dstIp, srcPort, dstPort, protocol := ascii "HTTP", details := url }

/-! ### All handlers -/

inductive Handler where
  | httpTrace | dnsTrace | dbTrace | schedTrace | memTrace | blockTrace | securityTrace | security | performance | syscall
  | flow | http
  deriving DecidableEq, Repr

namespace Handler

def handle (r : Reporter) (clockOffset : Int64) (data : Bytes) : Handler → Checked (Option HandedOn)
  | httpTrace => Option.map .event <$> httpHandleEvent r data
  | dnsTrace => Option.map .event <$> dnsHandleEvent r data
  | dbTrace => Option.map .event <$> dbHandleEvent r data
  | schedTrace => Option.map .recorder <$> schedHandleEvent data
  | memTrace => Option.map .recorder <$> memHandleEvent data
  | blockTrace => Option.map .recorder <$> blockHandleEvent data
  | securityTrace => Option.map .event <$> securityHandleEvent r data
  | security => fileHandleEvent r clockOffset data
  | performance => Option.map .process <$> performanceHandleEvent r data
  | syscall => Option.map .syscall <$> syscallHandleEvent r data
  | flow => Option.map .event <$> handleFlowEvent r data
  | http => Option.map .event <$> handleHTTPEvent r data

/-- The length that the handler asks for. -/
def guard : Handler → Nat
  | syscall => 88
  | flow => 32
  | http => 24
  | _ => 48

/-- Where the last field ends that the handler slices. -/
def furthest : Handler → Nat
  | httpTrace | dnsTrace | dbTrace | securityTrace => 328
  | security | performance => 344
  | schedTrace | blockTrace => 56
  | memTrace => 48
  | syscall => 88
  | flow => 29
  | http => 21

/-- The samples that two of the handlers drop after a look at their type. -/
def Skips (data : Bytes) : Handler → Prop
  | httpTrace => uint32 ((data.drop 8).take 4) ≠ 2
  | dnsTrace => uint32 ((data.drop 8).take 4) ≠ 3
  | _ => False

end Handler

/-! ### Chains of reads -/

section
variable {α : Type} {data : Bytes} {offset : Nat}

theorem completes_readUint16 {next : UInt16 → Checked α} :
    Completes (readUint16 data offset >>= next) ↔
      offset + 2 ≤ data.length ∧ Completes (next (uint16 ((data.drop offset).take 2))) := by
  rw [readUint16, map_eq_pure_bind, bind_assoc, completes_readRange_bind]
  rfl

theorem completes_readUint32 {next : UInt32 → Checked α} :
    Completes (readUint32 data offset >>= next) ↔
      offset + 4 ≤ data.length ∧ Completes (next (uint32 ((data.drop offset).take 4))) := by
  rw [readUint32, map_eq_pure_bind, bind_assoc, completes_readRange_bind]
  rfl

theorem completes_readUint64 {next : UInt64 → Checked α} :
    Completes (readUint64 data offset >>= next) ↔
      offset + 8 ≤ data.length ∧ Completes (next (uint64 ((data.drop offset).take 8))) := by
  rw [readUint64, map_eq_pure_bind, bind_assoc, completes_readRange_bind]
  rfl

theorem completes_readWord32 {next : UInt32 → Checked α} :
    Completes (readWord32 data offset >>= next) ↔
      offset + 4 ≤ data.length ∧ Completes (next (word32 ((data.drop offset).take 4))) := by
  rw [readWord32, map_eq_pure_bind, bind_assoc, completes_readRange_bind]
  rfl

end

theorem socketEvent_completes_iff (r : Reporter) (eventType protocol : Bytes) (payloadOf : Bytes → Bytes) (data : Bytes) :
    Completes (socketEvent r eventType protocol payloadOf data) ↔ 328 ≤ data.length := by
  unfold socketEvent
  simp only [completes_readUint32, completes_readUint16, completes_readRange_bind, completes_pure_iff, and_true]
  omega

/-- A handler behind its length check. -/
theorem completes_guarded {α : Type} {data : Bytes} {least : Nat} {missing : α} {rest : Checked α} {reached : Prop}
    (behind : least ≤ data.length → (Completes rest ↔ reached)) :
    Completes (if data.length < least then pure missing else rest) ↔ data.length < least ∨ reached := by
  split
  · rename_i short
    exact iff_of_true (completes_pure _) (.inl short)
  · rename_i long
    rw [behind (by omega), or_iff_right long]

namespace Handler
variable (r : Reporter) (clockOffset : Int64) (data : Bytes)

/-- The collectors that look at the type of a sample first. -/
theorem typed_completes_iff (etype : UInt32) (eventType protocol : Bytes) (payloadOf : Bytes → Bytes) :
    Completes (do
      if data.length < 48 then return none
      else if (← readUint32 data 8) ≠ etype then return none
      else some <$> socketEvent r eventType protocol payloadOf data) ↔
      data.length < 48 ∨ uint32 ((data.drop 8).take 4) ≠ etype ∨ 328 ≤ data.length := by
  apply completes_guarded
  intro long
  rw [completes_readUint32, and_iff_right (by omega)]
  split
  · rename_i other
    exact iff_of_true (completes_pure _) (.inl other)
  · rename_i same
    rw [completes_fmap_iff, socketEvent_completes_iff, or_iff_right same]

theorem dbTrace_completes_iff : Completes (dbHandleEvent r data) ↔ data.length < 48 ∨ 328 ≤ data.length := by
  apply completes_guarded
  intro _
  rw [completes_fmap_iff, socketEvent_completes_iff]

theorem schedTrace_completes_iff : Completes (schedHandleEvent data) ↔ data.length < 48 ∨ 56 ≤ data.length := by
  apply completes_guarded
  intro _
  simp only [completes_readUint32, completes_readUint64]
  split_ifs <;> simp only [completes_pure_iff, and_true] <;> omega

theorem memTrace_completes_iff : Completes (memHandleEvent data) ↔ data.length < 48 ∨ 48 ≤ data.length := by
  apply completes_guarded
  intro _
  simp only [completes_readUint32, completes_readUint64]
  split_ifs <;> simp only [completes_pure_iff, and_true] <;> omega

theorem blockTrace_completes_iff : Completes (blockHandleEvent data) ↔ data.length < 48 ∨ 56 ≤ data.length := by
  apply completes_guarded
  intro _
  simp only [completes_readUint32, completes_readUint64]
  split_ifs <;> simp only [completes_pure_iff, and_true] <;> omega

theorem securityTrace_completes_iff : Completes (securityHandleEvent r data) ↔ data.length < 48 ∨ 328 ≤ data.length := by
  apply completes_guarded
  intro _
  simp only [completes_readUint32, completes_readUint64, completes_readRange_bind, completes_pure_iff, and_true]
  omega

theorem security_completes_iff : Completes (fileHandleEvent r clockOffset data) ↔ data.length < 48 ∨ 344 ≤ data.length := by
  apply completes_guarded
  intro _
  simp only [completes_readUint32, completes_readUint64, completes_readRange_bind]
  split_ifs <;> simp only [completes_pure_iff, and_true] <;> omega

theorem performance_completes_iff :
    Completes (performanceHandleEvent r data) ↔ data.length < 48 ∨ 344 ≤ data.length := by
  apply completes_guarded
  intro _
  simp only [completes_readUint32, completes_readUint64, completes_readRange_bind]
  split_ifs <;> simp only [completes_pure_iff, and_true] <;> omega

theorem syscall_completes_iff : Completes (syscallHandleEvent r data) ↔ data.length < 88 ∨ 88 ≤ data.length := by
  apply completes_guarded
  intro _
  simp only [completes_readUint32, completes_readUint64, completes_readRange_bind, completes_pure_iff, and_true]
  omega

theorem flow_completes_iff : Completes (handleFlowEvent r data) ↔ data.length < 32 ∨ 29 ≤ data.length := by
  apply completes_guarded
  intro _
  simp only [completes_readWord32, completes_readUint32, completes_readUint16, completes_readAt_bind, completes_pure_iff,
    exists_prop, and_true]
  omega

theorem http_completes_iff : Completes (handleHTTPEvent r data) ↔ data.length < 24 ∨ 21 ≤ data.length := by
  apply completes_guarded
  intro _
  simp only [completes_readUint64, completes_readWord32, completes_readUint16, completes_readRange_bind]
  split_ifs <;> simp only [completes_pure_iff, and_true] <;> omega

/-- A handler ends without a fault exactly if its length check or the type stops it, or the sample reaches to the end of
the last field that it slices. -/
theorem sample_in_range_iff (h : Handler) :
    (∃ result, h.handle r clockOffset data = .ok result) ↔
      data.length < h.guard ∨ h.Skips data ∨ h.furthest ≤ data.length := by
  have ends (m : Checked (Option HandedOn)) : (∃ result, m = .ok result) ↔ Completes m :=
    exists_congr fun _ => (and_iff_left trivial).symm
  have always (least far : Prop) : least ∨ far ↔ least ∨ False ∨ far := by rw [false_or]
  rw [ends]
  cases h with
  | httpTrace | dnsTrace => exact (completes_fmap_iff _).trans (typed_completes_iff r data ..)
  | dbTrace => exact (completes_fmap_iff _).trans ((dbTrace_completes_iff r data).trans (always ..))
  | schedTrace => exact (completes_fmap_iff _).trans ((schedTrace_completes_iff data).trans (always ..))
  | memTrace => exact (completes_fmap_iff _).trans ((memTrace_completes_iff data).trans (always ..))
  | blockTrace => exact (completes_fmap_iff _).trans ((blockTrace_completes_iff data).trans (always ..))
  | securityTrace => exact (completes_fmap_iff _).trans ((securityTrace_completes_iff r data).trans (always ..))
  | security => exact (security_completes_iff r clockOffset data).trans (always ..)
  | performance => exact (completes_fmap_iff _).trans ((performance_completes_iff r data).trans (always ..))
  | syscall => exact (completes_fmap_iff _).trans ((syscall_completes_iff r data).trans (always ..))
  | flow => exact (completes_fmap_iff _).trans ((flow_completes_iff r data).trans (always ..))
  | http => exact (completes_fmap_iff _).trans ((http_completes_iff r data).trans (always ..))

/-- Sixty bytes pass the check of the database collector and end before its payload. -/
theorem short_sample_out_of_range :
    dbTrace.handle ⟨Time.unix 0, []⟩ 0 (List.replicate 60 0) = .error .read := rfl

end Handler

end StbEbpf.Agent
