import StbEbpf.Agent.SampleBounds
import StbEbpf.Lib.CStrings

/-!
The security collector of `internal/collector/security.go` with the programs of `bpf/file_open.bpf.c` and
`bpf/tcp_connect.bpf.c`, from what happens in the kernel to what is handed to the output. The memory of a record holds
whatever an older record left there.
-/

namespace StbEbpf.Agent
open CText Access BoundedMap

/-! ### The BPF programs -/

/-- `bpf_probe_read_kernel_str` into the cleared array; it is cleared again when the name cannot be read. -/
def nameBytes (name : Option CStr) : Bytes := (name.map fun name => name.bytes.take 255).getD []

def traceDoFilpOpen (thread : Thread) (now : UInt64) (name : Option CStr) : Option BpfEvent :=
  thread.slot.map fun residue =>
    { residue with
      timestampNs := now
      type := 6
      pid := thread.pid
      ppid := 0
      comm := padTo 16 thread.comm.bytes
      data := padTo 256 (nameBytes name) }

def traceVfsWrite (thread : Thread) (now : UInt64) : Option BpfEvent :=
  thread.slot.map fun residue =>
    { residue with
      timestampNs := now
      type := 6
      pid := thread.pid
      comm := padTo 16 thread.comm.bytes
      data := padTo 256 (ascii "WRITE") }

/-- The map `start_ts`. -/
abbrev StartTs := Map UInt64 UInt64

def traceTcpV4ConnectEntry (thread : Thread) (ts : UInt64) (starts : StartTs) : StartTs :=
  update 8192 starts thread.pidTgid ts

/-- The clock is read twice, for the latency and for the time stamp. -/
def traceTcpV4ConnectExit (thread : Thread) (now later : UInt64) (starts : StartTs) : Option BpfEvent × StartTs :=
  match starts.lookup thread.pidTgid with
  | none => (none, starts)
  | some start =>
    (thread.slot.map fun residue =>
      { residue with
        timestampNs := later
        type := 7
        pid := thread.pid
        comm := padTo 16 thread.comm.bytes
        latencyNs := now - start },
      starts.erase thread.pidTgid)

/-- The fields of `struct sock_common` that are read, as they stand in memory. -/
structure SockCommon where
  daddr : UInt32
  dport : UInt16
  rcvSaddr : UInt32
  num : UInt16

def traceTcpV4Connect (thread : Thread) (now : UInt64) (sock : SockCommon) : Option BpfEvent :=
  thread.slot.map fun residue =>
    { residue with
      timestampNs := now
      type := 7
      pid := thread.pid
      comm := padTo 16 thread.comm.bytes
      dstIp := sock.daddr
      dstPort := ntohs sock.dport
      srcIp := sock.rcvSaddr
      srcPort := ntohs sock.num }

/-! ### The kernel and the collector -/

/-- The programs that are attached. -/
structure SecurityHooks where
  filpOpen : Bool
  vfsWrite : Bool
  connect : Bool
  connectEntry : Bool
  connectExit : Bool

/-- The links that `Init` makes; each of the four may fail on its own. -/
def SecurityHooks.init (filpOpen vfsWrite connect connectExit : Bool) : SecurityHooks :=
  { filpOpen, vfsWrite, connect, connectEntry := false, connectExit }

/-- A thread in one of the probed functions; `returned` has the two readings of the clock. -/
inductive SecuritySeen where
  | opened (thread : Thread) (now : UInt64) (name : Option CStr)
  | wrote (thread : Thread) (now : UInt64)
  | connecting (thread : Thread) (now entered : UInt64) (sock : SockCommon)
  | returned (thread : Thread) (now later : UInt64)

/-- The map of start times and the two ring buffers. -/
structure SecurityRings where
  starts : StartTs := ∅
  file : List BpfEvent := []
  tcp : List BpfEvent := []

namespace SecurityRings

def submitFile (s : SecurityRings) (event : Option BpfEvent) : SecurityRings := { s with file := s.file ++ event.toList }

def submitTcp (s : SecurityRings) (event : Option BpfEvent) : SecurityRings := { s with tcp := s.tcp ++ event.toList }

def step (hooks : SecurityHooks) (s : SecurityRings) : SecuritySeen → SecurityRings
  | .opened thread now name => if hooks.filpOpen then s.submitFile (traceDoFilpOpen thread now name) else s
  | .wrote thread now => if hooks.vfsWrite then s.submitFile (traceVfsWrite thread now) else s
  | .connecting thread now entered sock =>
    let s := if hooks.connectEntry then { s with starts := traceTcpV4ConnectEntry thread entered s.starts } else s
    if hooks.connect then s.submitTcp (traceTcpV4Connect thread now sock) else s
  | .returned thread now later =>
    if hooks.connectExit then
      let (event, starts) := traceTcpV4ConnectExit thread now later s.starts
      { s with starts }.submitTcp event
    else s

def run (hooks : SecurityHooks) (seen : List SecuritySeen) : SecurityRings := seen.foldl (step hooks) {}

end SecurityRings

/-- `readLoop` on what a ring buffer has. -/
def securityReadLoop (r : Reporter) (clockOffset : Int64) : List BpfEvent → Checked (List HandedOn)
  | [] => return []
  | event :: rest => do
    let report ← fileHandleEvent r clockOffset event.sample
    let reports ← securityReadLoop r clockOffset rest
    return report.toList ++ reports

/-! ### Records without their old memory -/

/-- What `handleEvent` makes of a whole record. -/
def securityReport (r : Reporter) (clockOffset : Int64) (e : BpfEvent) : Option HandedOn :=
  if e.type = 6 then some (.file
    { ts := ebpfTimeToWallTime clockOffset r.now.zone e.timestampNs, probeId := r.probeId, pid := e.pid
      comm := trimNul e.comm.toList, filename := cut e.data.toList, operation := ascii "open", result := 0 })
  else if e.type = 7 then some (.event
    { timestamp := ebpfTimeToWallTime clockOffset r.now.zone e.timestampNs, probeId := r.probeId
      category := ascii "security", eventType := ascii "connect"
      details := ascii "pid=" ++ decimal e.pid.toNat ++ ascii " comm=" ++ trimNul e.comm.toList })
  else none

theorem fileHandleEvent_reads (r : Reporter) (clockOffset : Int64) (e : BpfEvent) :
    fileHandleEvent r clockOffset e.sample = .ok (securityReport r clockOffset e) := by
  unfold fileHandleEvent securityReport
  rw [if_neg (sample_long e), e.timestampNs_read, ok_bind, e.type_read, ok_bind, e.pid_read, ok_bind, e.comm_read,
    ok_bind, e.data_read, ok_bind]
  split_ifs <;> rfl

theorem securityReadLoop_reads (r : Reporter) (clockOffset : Int64) (events : List BpfEvent) :
    securityReadLoop r clockOffset events = .ok (events.flatMap fun e => (securityReport r clockOffset e).toList) := by
  induction events with
  | nil => rfl
  | cons e rest ih =>
    rw [securityReadLoop, fileHandleEvent_reads, ok_bind, ih, ok_bind, List.flatMap_cons]
    rfl

theorem trimNul_comm (comm : CharBuf 16) : trimNul (padTo 16 comm.bytes).toList = comm.bytes := by
  have fits := comm.fits
  have zeros : List.replicate (16 - comm.bytes.length) (0 : UInt8) =
      0 :: List.replicate (15 - comm.bytes.length) 0 := by
    rw [← List.replicate_succ]
    congr 1
    omega
  rw [padTo_toList (by omega), zeros, trimNul_terminated_iff comm.noNul]
  intro byte member
  exact List.eq_of_mem_replicate member

theorem cut_padTo {size : Nat} {text : Bytes} (fits : text.length ≤ size) (noNul : 0 ∉ text) :
    cut (padTo size text).toList = text := by
  rw [padTo_toList fits]
  exact cut_filled noNul

theorem nameBytes_cut (name : Option CStr) : cut (padTo 256 (nameBytes name)).toList = nameBytes name := by
  cases name with
  | none => exact cut_padTo (Nat.zero_le 256) List.not_mem_nil
  | some name =>
    apply cut_padTo
    · exact (List.length_take_le 255 name.bytes).trans (by omega)
    · intro member
      exact name.noNul (List.mem_of_mem_take member)

/-! ### What is handed on -/

section
variable (r : Reporter) (clockOffset : Int64)

/-- An access to a file, as the output gets it. -/
def fileReport (thread : Thread) (now : UInt64) (filename : Bytes) : HandedOn :=
  .file
    { ts := ebpfTimeToWallTime clockOffset r.now.zone now, probeId := r.probeId, pid := thread.pid
      comm := thread.comm.bytes, filename, operation := ascii "open", result := 0 }

def connectReport (thread : Thread) (now : UInt64) : HandedOn :=
  .event
    { timestamp := ebpfTimeToWallTime clockOffset r.now.zone now, probeId := r.probeId, category := ascii "security"
      eventType := ascii "connect"
      details := ascii "pid=" ++ decimal thread.pid.toNat ++ ascii " comm=" ++ thread.comm.bytes }

/-- A write counts as an open of the file `WRITE`. -/
def SecuritySeen.fileReports (hooks : SecurityHooks) : SecuritySeen → List HandedOn
  | .opened thread now name =>
    if hooks.filpOpen ∧ thread.slot.isSome then [fileReport r clockOffset thread now (nameBytes name)] else []
  | .wrote thread now =>
    if hooks.vfsWrite ∧ thread.slot.isSome then [fileReport r clockOffset thread now (ascii "WRITE")] else []
  | .connecting .. | .returned .. => []

/-- The end of an attempt gives nothing, nor does its address. -/
def SecuritySeen.tcpReports (hooks : SecurityHooks) : SecuritySeen → List HandedOn
  | .connecting thread now _ _ =>
    if hooks.connect ∧ thread.slot.isSome then [connectReport r clockOffset thread now] else []
  | .opened .. | .wrote .. | .returned .. => []

variable {r clockOffset}

theorem traceDoFilpOpen_reported (thread : Thread) (now : UInt64) (name : Option CStr) :
    (traceDoFilpOpen thread now name).toList.flatMap (fun e => (securityReport r clockOffset e).toList) =
      if thread.slot.isSome then [fileReport r clockOffset thread now (nameBytes name)] else [] := by
  unfold traceDoFilpOpen
  cases thread.slot with
  | none => rfl
  | some residue =>
    simp [securityReport, fileReport, trimNul_comm, nameBytes_cut]

theorem traceVfsWrite_reported (thread : Thread) (now : UInt64) :
    (traceVfsWrite thread now).toList.flatMap (fun e => (securityReport r clockOffset e).toList) =
      if thread.slot.isSome then [fileReport r clockOffset thread now (ascii "WRITE")] else [] := by
  have text : cut (padTo 256 (ascii "WRITE")).toList = ascii "WRITE" := by
    rw [ascii_ofList]
    exact cut_padTo (by decide) (by decide)
  unfold traceVfsWrite
  cases thread.slot with
  | none => rfl
  | some residue => simp [securityReport, fileReport, trimNul_comm, text]

theorem traceTcpV4Connect_reported (thread : Thread) (now : UInt64) (sock : SockCommon) :
    (traceTcpV4Connect thread now sock).toList.flatMap (fun e => (securityReport r clockOffset e).toList) =
      if thread.slot.isSome then [connectReport r clockOffset thread now] else [] := by
  unfold traceTcpV4Connect
  cases thread.slot with
  | none => rfl
  | some residue => simp [securityReport, connectReport, trimNul_comm]

/-- No attempt has a start time, and the records read as the reports of what was seen. -/
structure SecurityRings.Shows (s : SecurityRings) (r : Reporter) (clockOffset : Int64) (hooks : SecurityHooks)
    (seen : List SecuritySeen) : Prop where
  starts : s.starts = ∅
  file : s.file.flatMap (fun e => (securityReport r clockOffset e).toList) =
    seen.flatMap (SecuritySeen.fileReports r clockOffset hooks)
  tcp : s.tcp.flatMap (fun e => (securityReport r clockOffset e).toList) =
    seen.flatMap (SecuritySeen.tcpReports r clockOffset hooks)

namespace SecurityRings.Shows
variable {s : SecurityRings} {hooks : SecurityHooks} {seen : List SecuritySeen}

theorem submitFile (shows : s.Shows r clockOffset hooks seen) {event : Option BpfEvent} {last : SecuritySeen}
    (reported : event.toList.flatMap (fun e => (securityReport r clockOffset e).toList) =
      last.fileReports r clockOffset hooks)
    (apart : last.tcpReports r clockOffset hooks = []) : (s.submitFile event).Shows r clockOffset hooks (seen ++ [last]) where
  starts := shows.starts
  file := by
    unfold SecurityRings.submitFile
    rw [List.flatMap_append, List.flatMap_append, shows.file, reported, List.flatMap_singleton]
  tcp := by
    rw [List.flatMap_append, List.flatMap_singleton, apart, List.append_nil]
    exact shows.tcp

theorem submitTcp (shows : s.Shows r clockOffset hooks seen) {event : Option BpfEvent} {last : SecuritySeen}
    (reported : event.toList.flatMap (fun e => (securityReport r clockOffset e).toList) =
      last.tcpReports r clockOffset hooks)
    (apart : last.fileReports r clockOffset hooks = []) :
    (s.submitTcp event).Shows r clockOffset hooks (seen ++ [last]) where
  starts := shows.starts
  file := by
    rw [List.flatMap_append, List.flatMap_singleton, apart, List.append_nil]
    exact shows.file
  tcp := by
    unfold SecurityRings.submitTcp
    rw [List.flatMap_append, List.flatMap_append, shows.tcp, reported, List.flatMap_singleton]

theorem silent (shows : s.Shows r clockOffset hooks seen) {last : SecuritySeen}
    (noFile : last.fileReports r clockOffset hooks = []) (noTcp : last.tcpReports r clockOffset hooks = []) :
    s.Shows r clockOffset hooks (seen ++ [last]) where
  starts := shows.starts
  file := by rw [List.flatMap_append, List.flatMap_singleton, noFile, List.append_nil, shows.file]
  tcp := by rw [List.flatMap_append, List.flatMap_singleton, noTcp, List.append_nil, shows.tcp]

/-- Without the program for the start of an attempt, its end finds no time to count from. -/
theorem step (shows : s.Shows r clockOffset hooks seen) (noEntry : hooks.connectEntry = false) (last : SecuritySeen) :
    (s.step hooks last).Shows r clockOffset hooks (seen ++ [last]) := by
  cases last with
  | opened thread now name =>
    dsimp only [SecurityRings.step]
    split
    case isTrue attached =>
      apply shows.submitFile _ rfl
      rw [traceDoFilpOpen_reported, SecuritySeen.fileReports, attached]
      simp
    case isFalse detached => exact shows.silent (if_neg fun both => detached both.1) rfl
  | wrote thread now =>
    dsimp only [SecurityRings.step]
    split
    case isTrue attached =>
      apply shows.submitFile _ rfl
      rw [traceVfsWrite_reported, SecuritySeen.fileReports, attached]
      simp
    case isFalse detached => exact shows.silent (if_neg fun both => detached both.1) rfl
  | connecting thread now entered sock =>
    dsimp only [SecurityRings.step]
    rw [noEntry, if_neg Bool.false_ne_true]
    split
    case isTrue attached =>
      apply shows.submitTcp _ rfl
      rw [traceTcpV4Connect_reported, SecuritySeen.tcpReports, attached]
      simp
    case isFalse detached => exact shows.silent rfl (if_neg fun both => detached both.1)
  | returned thread now later =>
    have untimed : traceTcpV4ConnectExit thread now later s.starts = (none, s.starts) := by
      unfold traceTcpV4ConnectExit
      rw [shows.starts, AList.lookup_empty]
    dsimp only [SecurityRings.step]
    rw [untimed]
    split
    case isTrue attached => exact shows.submitTcp rfl rfl
    case isFalse detached => exact shows.silent rfl rfl

theorem run (noEntry : hooks.connectEntry = false) (seen : List SecuritySeen) :
    (SecurityRings.run hooks seen).Shows r clockOffset hooks seen := by
  induction seen using List.reverseRecOn with
  | nil => exact ⟨rfl, rfl, rfl⟩
  | append_singleton earlier last ih =>
    unfold SecurityRings.run at ih ⊢
    rw [List.foldl_concat]
    exact ih.step noEntry last

end SecurityRings.Shows

/-- Whatever was attached and whatever old records the memory holds, reading the two ring buffers crashes on no record
and hands on, in order, one report for each open, write and attempt that had room; none for the end of an attempt. -/
theorem security_reports (filpOpen vfsWrite connect connectExit : Bool) (seen : List SecuritySeen) :
    let hooks := SecurityHooks.init filpOpen vfsWrite connect connectExit
    securityReadLoop r clockOffset (SecurityRings.run hooks seen).file =
        .ok (seen.flatMap (SecuritySeen.fileReports r clockOffset hooks)) ∧
      securityReadLoop r clockOffset (SecurityRings.run hooks seen).tcp =
        .ok (seen.flatMap (SecuritySeen.tcpReports r clockOffset hooks)) := by
  intro hooks
  have shows : (SecurityRings.run hooks seen).Shows r clockOffset hooks seen := SecurityRings.Shows.run rfl seen
  rw [securityReadLoop_reads, securityReadLoop_reads, shows.file, shows.tcp]
  exact ⟨rfl, rfl⟩

end

end StbEbpf.Agent
