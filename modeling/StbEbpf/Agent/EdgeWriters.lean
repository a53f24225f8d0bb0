import StbEbpf.Agent.EdgeCustody
import StbEbpf.Agent.EventCodec
import StbEbpf.Agent.SampleBounds
import StbEbpf.Lib.JsonNested

/-!
The typed writers of `internal/output/edge.go`. Each puts its arguments into a JSON object, which is a string of the
event; the batch is JSON once more.
-/

namespace StbEbpf.Agent
open CText Json Strconv

/-! ### Objects of details -/

def formatInt (n : Int) : Numeral := { negative := decide (n < 0), whole := decimal n.natAbs }

def parseInt32 (n : Numeral) : Option Int32 :=
  if n.fraction ≠ [] ∨ n.exponent ≠ none then none
  else
    let value : Int := if n.negative then - (digitsValue n.whole : Int) else digitsValue n.whole
    if - 2 ^ 31 ≤ value ∧ value < 2 ^ 31 then some (Int32.ofInt value) else none

theorem formatInt_ok (n : Int) : (formatInt n).Ok := by
  obtain ⟨whole, fraction, exponent⟩ := formatUint_ok n.natAbs
  exact ⟨whole, fraction, exponent⟩

theorem parseInt32_format (n : Int32) : parseInt32 (formatInt n.toInt) = some n := by
  have value : (if decide (n.toInt < 0) = true then - (n.toInt.natAbs : Int) else n.toInt.natAbs) = n.toInt := by
    split
    case isTrue negative =>
      have below := of_decide_eq_true negative
      omega
    case isFalse positive =>
      have above : ¬ n.toInt < 0 := fun below => positive (decide_eq_true below)
      omega
  unfold parseInt32 formatInt
  rw [if_neg (by simp), digitsValue_decimal]
  dsimp only
  rw [value, if_pos ⟨n.le_toInt, n.toInt_lt⟩, Int32.ofInt_toInt]

/-- The types of the arguments. -/
inductive ArgType where
  | float64 | uint32 | uint64 | int32 | text
  deriving DecidableEq, Repr

namespace ArgType

def Carrier : ArgType → Type
  | .float64 => UInt64
  | .uint32 => UInt32
  | .uint64 => UInt64
  | .int32 => Int32
  | .text => Bytes

/-- `none` is an error of `Marshal`. -/
def encode : (k : ArgType) → k.Carrier → Option Value
  | .float64, bits => (formatFloat bits).map .number
  | .uint32, n => some (.number (formatUint (UInt32.toNat n)))
  | .uint64, n => some (.number (formatUint (UInt64.toNat n)))
  | .int32, n => some (.number (formatInt (Int32.toInt n)))
  | .text, content => some (.string (quoted content))

/-- What a reader of the object takes the value for. -/
def decode : (k : ArgType) → Value → Option k.Carrier
  | .float64, .number n => parseFloat n
  | .uint32, .number n => (parseUint (2 ^ 32) n).map Nat.toUInt32
  | .uint64, .number n => (parseUint (2 ^ 64) n).map Nat.toUInt64
  | .int32, .number n => parseInt32 n
  | .text, .string raw => unquote raw
  | _, _ => none

def received : (k : ArgType) → k.Carrier → k.Carrier
  | .text, content => Utf8.coerced content
  | .float64, bits => bits
  | .uint32, n => n
  | .uint64, n => n
  | .int32, n => n

theorem decode_encode {k : ArgType} {x : k.Carrier} {value : Value} (encoded : k.encode x = some value) :
    k.decode value = some (k.received x) := by
  cases k with
  | float64 =>
    obtain ⟨numeral, written, rfl⟩ := Option.map_eq_some_iff.mp encoded
    exact parseFloat_format written
  | uint32 =>
    obtain rfl := Option.some.inj encoded
    show (parseUint _ _).map _ = _
    rw [parseUint_format (UInt32.toNat_lt x)]
    exact congrArg some UInt32.ofNat_toNat
  | uint64 =>
    obtain rfl := Option.some.inj encoded
    show (parseUint _ _).map _ = _
    rw [parseUint_format (UInt64.toNat_lt x)]
    exact congrArg some UInt64.ofNat_toNat
  | int32 =>
    obtain rfl := Option.some.inj encoded
    exact parseInt32_format x
  | text =>
    obtain rfl := Option.some.inj encoded
    exact unquote_quoted x

theorem encode_sound {k : ArgType} {x : k.Carrier} {value : Value} (encoded : k.encode x = some value) (depth : Nat) :
    Printable depth value ∧ Utf8.valid value.text = true := by
  cases k with
  | float64 =>
    obtain ⟨numeral, written, rfl⟩ := Option.map_eq_some_iff.mp encoded
    exact ⟨.number depth (formatFloat_ok written), (formatFloat_ok written).text_valid⟩
  | uint32 | uint64 =>
    obtain rfl := Option.some.inj encoded
    exact ⟨.number depth (formatUint_ok _), (formatUint_ok _).text_valid⟩
  | int32 =>
    obtain rfl := Option.some.inj encoded
    exact ⟨.number depth (formatInt_ok _), (formatInt_ok _).text_valid⟩
  | text =>
    obtain rfl := Option.some.inj encoded
    exact ⟨.string depth (quoted_enclosed x), string_text_valid (quoted_valid x)⟩

end ArgType

/-- A key of the map with its value. -/
structure Detail where
  name : String
  type : ArgType
  value : type.Carrier

def Detail.encode (d : Detail) : Option (Bytes × Value) := (d.type.encode d.value).map (ascii d.name, ·)

/-- `json.Marshal` of a map writes the keys in their order. -/
def marshalMap (details : List Detail) : Option Bytes :=
  (details.mapM Detail.encode).map fun members => (Value.object (sortMembers members)).text

/-- The writers do not look at the error of `Marshal`, which comes with no data. -/
def detailsText (details : List Detail) : Bytes := (marshalMap details).getD []

/-- Distinct names of small letters. -/
def wellNamed (names : List String) : Bool :=
  decide (names.map ascii).Nodup && names.all fun name => (ascii name).all (Utf8.within 95 122)

theorem wellNamed_plain {names : List String} (named : wellNamed names = true) {name : String} (member : name ∈ names) :
    ∀ byte ∈ ascii name, Plain byte ∧ byte < 0x80 := by
  intro byte inside
  have letters := (Bool.and_eq_true_iff.mp named).2
  have letter := List.all_eq_true.mp (List.all_eq_true.mp letters name member) byte inside
  obtain ⟨low, high⟩ := (Utf8.within_iff ..).mp letter
  refine ⟨plain_of_range (Nat.le_trans (by decide) low) (Nat.ne_of_gt (Nat.lt_of_lt_of_le (by decide) low)), ?_⟩
  exact UInt8.lt_iff_toNat_lt.mpr (Nat.lt_of_le_of_lt high (by decide))

/-- The value of a key, as a type of the arguments. -/
def detailOf (object : Value) (k : ArgType) (name : String) : Option k.Carrier :=
  (object.member (ascii name)).bind k.decode

section
variable {details : List Detail} {text : Bytes}

theorem members_names {members : List (Bytes × Value)} (encoded : details.mapM Detail.encode = some members) :
    members.map Prod.fst = (details.map Detail.name).map ascii := by
  have each := mapM_eq_some_iff.mp encoded
  clear encoded
  induction each with
  | nil => rfl
  | cons one _ ih =>
    obtain ⟨value, -, rfl⟩ := Option.map_eq_some_iff.mp one
    rw [List.map_cons, List.map_cons, List.map_cons, ih]

theorem mem_mapM {α β : Type} {f : α → Option β} {items : List α} {found : List β} (all : items.mapM f = some found)
    {item : α} (inside : item ∈ items) : ∃ b ∈ found, f item = some b := by
  have pairs := mapM_eq_some_iff.mp all
  clear all
  induction pairs with
  | nil => cases inside
  | cons first _ ih =>
    rcases List.mem_cons.mp inside with rfl | later
    · exact ⟨_, List.mem_cons_self, first⟩
    · obtain ⟨b, member, same⟩ := ih later
      exact ⟨b, List.mem_cons_of_mem _ member, same⟩

theorem marshalMap_reads (named : wellNamed (details.map Detail.name) = true) (written : marshalMap details = some text) :
    Utf8.valid text = true ∧
      ∃ object, readWhole text = some object ∧
        ∀ d ∈ details, detailOf object d.type d.name = some (d.type.received d.value) := by
  obtain ⟨members, encoded, rfl⟩ := Option.map_eq_some_iff.mp written
  have each : ∀ member ∈ members, (∀ byte ∈ member.1, Plain byte ∧ byte < 0x80) ∧ Printable 9999 member.2 ∧
      Utf8.valid member.2.text = true := by
    intro member inside
    obtain ⟨d, source, made⟩ := exists_of_mem_mapM encoded inside
    obtain ⟨value, encoded, rfl⟩ := Option.map_eq_some_iff.mp made
    exact ⟨wellNamed_plain named (List.mem_map_of_mem source), ArgType.encode_sound encoded 9999⟩
  have printable : Printable (9999 + 1) (.object (sortMembers members)) := by
    apply Printable.object
    · intro member inside
      exact enclosed_of_plain fun byte here => ((each member (mem_sortMembers.mp inside)).1 byte here).1
    · intro member inside
      exact (each member (mem_sortMembers.mp inside)).2.1
  have valid : Utf8.valid (Value.object (sortMembers members)).text = true := by
    apply object_text_valid
    intro member inside
    obtain ⟨plain, -, valid⟩ := each member (mem_sortMembers.mp inside)
    exact ⟨Utf8.valid_low fun byte here => (plain byte here).2, valid⟩
  refine ⟨valid, _, readWhole_text printable, ?_⟩
  intro d source
  obtain ⟨member, inside, made⟩ := mem_mapM encoded source
  obtain ⟨value, kept, rfl⟩ := Option.map_eq_some_iff.mp made
  have distinct : (members.map Prod.fst).Nodup := by
    rw [members_names encoded]
    exact of_decide_eq_true (Bool.and_eq_true_iff.mp named).1
  have found := member_sorted (fun member inside => unquote_plain (each member inside).1) distinct inside
  unfold detailOf
  rw [found]
  exact ArgType.decode_encode kept

theorem detailsText_reads (details : List Detail) (named : wellNamed (details.map Detail.name) = true)
    (written : (marshalMap details).isSome = true) :
    ∃ object, readWhole (Utf8.coerced (detailsText details)) = some object ∧
      ∀ d ∈ details, detailOf object d.type d.name = some (d.type.received d.value) := by
  obtain ⟨text, written⟩ := Option.isSome_iff_exists.mp written
  obtain ⟨valid, read⟩ := marshalMap_reads named written
  unfold detailsText
  rw [written, Option.getD_some, (Utf8.coerced_eq_iff text).mpr valid]
  exact read

/-- Only a `float64` may have no text. -/
theorem marshalMap_isSome (details : List Detail) (whole : ∀ d ∈ details, d.type ≠ .float64) :
    (marshalMap details).isSome = true := by
  have each : ∀ d ∈ details, ∃ member, d.encode = some member := by
    intro d member
    obtain ⟨name, type, value⟩ := d
    cases type with
    | float64 => exact absurd rfl (whole _ member)
    | uint32 | uint64 | int32 | text => exact ⟨_, rfl⟩
  obtain ⟨members, encoded⟩ := exists_mapM_iff.mpr each
  unfold marshalMap
  rw [encoded]
  rfl

theorem detailsText_unwritten (failed : marshalMap details = none) :
    readWhole (Utf8.coerced (detailsText details)) = none := by
  unfold detailsText
  rw [failed]
  rfl

end

/-! ### The writers -/

/-- The arguments of `WriteMetrics`, and the clock it reads. The percentages are bits of a `float64`. -/
structure MetricsReport where
  now : Time
  probeId : Bytes
  cpu : UInt64
  mem : UInt64
  disk : UInt64
  netRx : UInt64
  netTx : UInt64
  diskRead : UInt64
  diskWrite : UInt64
  deriving DecidableEq

def MetricsReport.details (m : MetricsReport) : List Detail :=
  [⟨"cpu_percent", .float64, m.cpu⟩, ⟨"memory_percent", .float64, m.mem⟩, ⟨"disk_percent", .float64, m.disk⟩,
    ⟨"net_rx_bytes", .uint64, m.netRx⟩, ⟨"net_tx_bytes", .uint64, m.netTx⟩, ⟨"disk_read_bytes", .uint64, m.diskRead⟩,
    ⟨"disk_write_bytes", .uint64, m.diskWrite⟩]

def writeMetrics.event (m : MetricsReport) : Event :=
  { timestamp := m.now, probeId := m.probeId, category := ascii "metrics", eventType := ascii "host_metrics"
    details := detailsText m.details }

def ProcessReport.details (p : ProcessReport) : List Detail :=
  [⟨"pid", .uint32, p.pid⟩, ⟨"ppid", .uint32, p.ppid⟩, ⟨"comm", .text, p.comm⟩, ⟨"exe", .text, p.exe⟩,
    ⟨"args", .text, p.args⟩]

def writeProcessEvent.event (p : ProcessReport) : Event :=
  { timestamp := p.ts, probeId := p.probeId, category := ascii "process", eventType := p.eventType
    details := detailsText p.details }

def FileReport.details (f : FileReport) : List Detail :=
  [⟨"pid", .uint32, f.pid⟩, ⟨"comm", .text, f.comm⟩, ⟨"filename", .text, f.filename⟩, ⟨"result", .int32, f.result⟩]

def writeFileEvent.event (f : FileReport) : Event :=
  { timestamp := f.ts, probeId := f.probeId, category := ascii "file", eventType := f.operation
    details := detailsText f.details }

def SyscallReport.details (s : SyscallReport) : List Detail :=
  [⟨"pid", .uint32, s.pid⟩, ⟨"comm", .text, s.comm⟩, ⟨"syscall_nr", .uint64, s.syscallNr⟩,
    ⟨"latency_ns", .uint64, s.latencyNs⟩, ⟨"count", .uint64, s.count⟩]

def writeSyscallEvent.event (s : SyscallReport) : Event :=
  { timestamp := s.ts, probeId := s.probeId, category := ascii "syscall", eventType := ascii "syscall"
    details := detailsText s.details }

/-- A call of one of the four writers. -/
inductive TypedReport where
  | metrics (report : MetricsReport)
  | process (report : ProcessReport)
  | file (report : FileReport)
  | syscall (report : SyscallReport)

namespace TypedReport

def toEvent : TypedReport → Event
  | .metrics m => writeMetrics.event m
  | .process p => writeProcessEvent.event p
  | .file f => writeFileEvent.event f
  | .syscall s => writeSyscallEvent.event s

end TypedReport

/-! ### Reading the reports back -/

section
variable (e : Event) (object : Value)

def MetricsReport.read : Option MetricsReport := do
  let cpu ← detailOf object .float64 "cpu_percent"
  let mem ← detailOf object .float64 "memory_percent"
  let disk ← detailOf object .float64 "disk_percent"
  let netRx ← detailOf object .uint64 "net_rx_bytes"
  let netTx ← detailOf object .uint64 "net_tx_bytes"
  let diskRead ← detailOf object .uint64 "disk_read_bytes"
  let diskWrite ← detailOf object .uint64 "disk_write_bytes"
  return { now := e.timestamp, probeId := e.probeId, cpu, mem, disk, netRx, netTx, diskRead, diskWrite }

def ProcessReport.read : Option ProcessReport := do
  let pid ← detailOf object .uint32 "pid"
  let ppid ← detailOf object .uint32 "ppid"
  let comm ← detailOf object .text "comm"
  let exe ← detailOf object .text "exe"
  let args ← detailOf object .text "args"
  return { ts := e.timestamp, probeId := e.probeId, pid, ppid, comm, exe, args, eventType := e.eventType }

def FileReport.read : Option FileReport := do
  let pid ← detailOf object .uint32 "pid"
  let comm ← detailOf object .text "comm"
  let filename ← detailOf object .text "filename"
  let result ← detailOf object .int32 "result"
  return { ts := e.timestamp, probeId := e.probeId, pid, comm, filename, operation := e.eventType, result }

def SyscallReport.read : Option SyscallReport := do
  let pid ← detailOf object .uint32 "pid"
  let comm ← detailOf object .text "comm"
  let syscallNr ← detailOf object .uint64 "syscall_nr"
  let latencyNs ← detailOf object .uint64 "latency_ns"
  let count ← detailOf object .uint64 "count"
  return { ts := e.timestamp, probeId := e.probeId, pid, comm, syscallNr, latencyNs, count }

def TypedReport.read : Option TypedReport :=
  if e.category = ascii "metrics" then (MetricsReport.read e object).map .metrics
  else if e.category = ascii "process" then (ProcessReport.read e object).map .process
  else if e.category = ascii "file" then (FileReport.read e object).map .file
  else if e.category = ascii "syscall" then (SyscallReport.read e object).map .syscall
  else none

end

/-! ### What is left of a report -/

def MetricsReport.arrived (m : MetricsReport) : MetricsReport :=
  { m with now := m.now.received, probeId := Utf8.coerced m.probeId }

def ProcessReport.arrived (p : ProcessReport) : ProcessReport :=
  { p with
    ts := p.ts.received, probeId := Utf8.coerced p.probeId, comm := Utf8.coerced p.comm, exe := Utf8.coerced p.exe
    args := Utf8.coerced p.args, eventType := Utf8.coerced p.eventType }

def FileReport.arrived (f : FileReport) : FileReport :=
  { f with
    ts := f.ts.received, probeId := Utf8.coerced f.probeId, comm := Utf8.coerced f.comm
    filename := Utf8.coerced f.filename, operation := Utf8.coerced f.operation }

def SyscallReport.arrived (s : SyscallReport) : SyscallReport :=
  { s with ts := s.ts.received, probeId := Utf8.coerced s.probeId, comm := Utf8.coerced s.comm }

namespace TypedReport

/-- The report that an event stands for. -/
def ofEvent (e : Event) : Option TypedReport := (readWhole e.details).bind (read e)

/-- A percentage that JSON has a number for. -/
def isFinite (bits : UInt64) : Bool := (formatFloat bits).isSome

/-- What is left of a report: the texts as far as they are UTF-8, and no metrics at all where one of them is infinite or
not a number. -/
def arrived : TypedReport → Option TypedReport
  | .metrics m => if isFinite m.cpu && isFinite m.mem && isFinite m.disk then some (.metrics m.arrived) else none
  | .process p => some (.process p.arrived)
  | .file f => some (.file f.arrived)
  | .syscall s => some (.syscall s.arrived)

theorem names_wellNamed :
    wellNamed ["cpu_percent", "memory_percent", "disk_percent", "net_rx_bytes", "net_tx_bytes", "disk_read_bytes",
        "disk_write_bytes"] = true ∧
      wellNamed ["pid", "ppid", "comm", "exe", "args"] = true ∧ wellNamed ["pid", "comm", "filename", "result"] = true ∧
      wellNamed ["pid", "comm", "syscall_nr", "latency_ns", "count"] = true := by
  decide +kernel

theorem categories_coerced :
    ∀ name ∈ ["metrics", "process", "file", "syscall"], Utf8.coerced (ascii name) = ascii name := by
  decide +kernel

theorem received_category {e : Event} {name : String} (category : e.category = ascii name)
    (known : name ∈ ["metrics", "process", "file", "syscall"]) : e.received.category = ascii name := by
  have arrives : e.received.category = Utf8.coerced e.category := Field.get_received e .category
  rw [arrives, category, categories_coerced name known]

theorem categories_apart :
    ascii "process" ≠ ascii "metrics" ∧ ascii "file" ≠ ascii "metrics" ∧ ascii "file" ≠ ascii "process" ∧
      ascii "syscall" ≠ ascii "metrics" ∧ ascii "syscall" ≠ ascii "process" ∧ ascii "syscall" ≠ ascii "file" := by
  decide +kernel

theorem metrics_written (m : MetricsReport) :
    (marshalMap m.details).isSome = (isFinite m.cpu && isFinite m.mem && isFinite m.disk) := by
  unfold isFinite marshalMap MetricsReport.details
  cases cpu : formatFloat m.cpu <;> cases mem : formatFloat m.mem <;> cases disk : formatFloat m.disk <;>
    simp [Detail.encode, ArgType.encode, cpu, mem, disk]

theorem ofEvent_details {e : Event} {details : List Detail} (same : e.details = detailsText details) :
    ofEvent e.received = (readWhole (Utf8.coerced (detailsText details))).bind (read e.received) := by
  have arrives : e.received.details = Utf8.coerced e.details := Field.get_received e .details
  rw [ofEvent, arrives, same]

theorem ofEvent_metrics (m : MetricsReport) : ofEvent (toEvent (.metrics m)).received = arrived (.metrics m) := by
  have category : (toEvent (.metrics m)).received.category = ascii "metrics" := received_category rfl (by simp)
  have details : (toEvent (.metrics m)).details = detailsText m.details := rfl
  rw [ofEvent_details details, arrived, ← metrics_written]
  cases written : (marshalMap m.details).isSome with
  | false =>
    have none_ : marshalMap m.details = none := by simpa using written
    rw [detailsText_unwritten none_]
    rfl
  | true =>
    obtain ⟨object, read, each⟩ := detailsText_reads m.details names_wellNamed.1 written
    simp only [MetricsReport.details, List.forall_mem_cons] at each
    obtain ⟨cpu, mem, disk, netRx, netTx, diskRead, diskWrite, -⟩ := each
    rw [read, Option.bind_some, TypedReport.read, if_pos category, MetricsReport.read, cpu, mem, disk, netRx, netTx,
      diskRead, diskWrite]
    rfl

theorem ofEvent_process (p : ProcessReport) : ofEvent (toEvent (.process p)).received = arrived (.process p) := by
  have category : (toEvent (.process p)).received.category = ascii "process" := received_category rfl (by simp)
  obtain ⟨metrics, -⟩ := categories_apart
  have written := marshalMap_isSome p.details (by simp [ProcessReport.details])
  obtain ⟨object, read, each⟩ := detailsText_reads p.details names_wellNamed.2.1 written
  simp only [ProcessReport.details, List.forall_mem_cons] at each
  obtain ⟨pid, ppid, comm, exe, args, -⟩ := each
  have details : (toEvent (.process p)).details = detailsText p.details := rfl
  rw [ofEvent_details details, read, Option.bind_some, TypedReport.read, category, if_neg metrics, if_pos rfl,
    ProcessReport.read, pid, ppid, comm, exe, args]
  rfl

theorem ofEvent_file (f : FileReport) : ofEvent (toEvent (.file f)).received = arrived (.file f) := by
  have category : (toEvent (.file f)).received.category = ascii "file" := received_category rfl (by simp)
  obtain ⟨-, metrics, process, -⟩ := categories_apart
  have written := marshalMap_isSome f.details (by simp [FileReport.details])
  obtain ⟨object, read, each⟩ := detailsText_reads f.details names_wellNamed.2.2.1 written
  simp only [FileReport.details, List.forall_mem_cons] at each
  obtain ⟨pid, comm, filename, result, -⟩ := each
  have details : (toEvent (.file f)).details = detailsText f.details := rfl
  rw [ofEvent_details details, read, Option.bind_some, TypedReport.read, category, if_neg metrics, if_neg process,
    if_pos rfl, FileReport.read, pid, comm, filename, result]
  rfl

theorem ofEvent_syscall (s : SyscallReport) : ofEvent (toEvent (.syscall s)).received = arrived (.syscall s) := by
  have category : (toEvent (.syscall s)).received.category = ascii "syscall" := received_category rfl (by simp)
  obtain ⟨-, -, -, metrics, process, file⟩ := categories_apart
  have written := marshalMap_isSome s.details (by simp [SyscallReport.details])
  obtain ⟨object, read, each⟩ := detailsText_reads s.details names_wellNamed.2.2.2 written
  simp only [SyscallReport.details, List.forall_mem_cons] at each
  obtain ⟨pid, comm, syscallNr, latencyNs, count, -⟩ := each
  have details : (toEvent (.syscall s)).details = detailsText s.details := rfl
  rw [ofEvent_details details, read, Option.bind_some, TypedReport.read, category, if_neg metrics, if_neg process,
    if_neg file, if_pos rfl, SyscallReport.read, pid, comm, syscallNr, latencyNs, count]
  rfl

theorem ofEvent_received (r : TypedReport) : ofEvent r.toEvent.received = r.arrived := by
  cases r with
  | metrics m => exact ofEvent_metrics m
  | process p => exact ofEvent_process p
  | file f => exact ofEvent_file f
  | syscall s => exact ofEvent_syscall s

/-- The only field that can keep an event from being written is its time. -/
theorem toEvent_encodes {r : TypedReport} {text : Bytes} (dated : appendStrictRFC3339 r.toEvent.timestamp = some text) :
    ∃ value, r.toEvent.encode = some value := by
  have fields (f : Field) (_ : f ∈ Field.all) : ∃ member, f.encode r.toEvent = some member := by
    have carried : ∃ value, f.shape.encode (f.get r.toEvent) = some value := by
      cases f with
      | timestamp => exact ⟨_, congrArg (Option.map Value.string) dated⟩
      | latencyMs => cases r <;> exact ⟨_, rfl⟩
      | _ => exact ⟨_, rfl⟩
    obtain ⟨value, written⟩ := carried
    exact ⟨_, congrArg (Option.map (f.key, ·)) written⟩
  obtain ⟨members, written⟩ := exists_mapM_iff.mpr fields
  exact ⟨.object members, congrArg (Option.map Value.object) written⟩

end TypedReport

/-- The reports of a batch are read back, one for one, from the body that the edge gets: with all their numbers, and
with their texts as far as they are UTF-8. Only metrics that are infinite or not a number are lost. -/
theorem typed_reports_arrive (reports : List TypedReport)
    (dated : ∀ r ∈ reports, ∃ text, appendStrictRFC3339 r.toEvent.timestamp = some text) :
    ∃ arrivals, decodeIngest (flushData (reports.map TypedReport.toEvent)) = some arrivals ∧
      arrivals.map (·.bind TypedReport.ofEvent) = reports.map TypedReport.arrived := by
  have encodes : ∀ e ∈ reports.map TypedReport.toEvent, ∃ value, e.encode = some value := by
    intro e member
    obtain ⟨r, inside, rfl⟩ := List.mem_map.mp member
    obtain ⟨text, dated⟩ := dated r inside
    exact TypedReport.toEvent_encodes dated
  obtain ⟨data, written⟩ := (marshal_iff _).mpr encodes
  refine ⟨(reports.map TypedReport.toEvent).map fun e => some e.received, ?_, ?_⟩
  · unfold flushData
    rw [written]
    exact decodeIngest_marshal written
  · rw [List.map_map, List.map_map]
    exact List.map_congr_left fun r _ => TypedReport.ofEvent_received r

/-- A process whose name is no UTF-8, and a share of the processor that is not a number. -/
def oddProcess : ProcessReport :=
  { ts := .unix 1700000000, probeId := ascii "edge-1", pid := 7, ppid := 1, comm := [0xFF, 0x61], exe := [], args := []
    eventType := ascii "execve" }

def oddMetrics : MetricsReport :=
  { now := .unix 1700000000, probeId := ascii "edge-1", cpu := 0x7FF8000000000001, mem := 0, disk := 0, netRx := 1
    netTx := 2, diskRead := 3, diskWrite := 4 }

theorem odd_reports_arrive :
    ∃ arrivals,
      decodeIngest (flushData [writeProcessEvent.event oddProcess, writeMetrics.event oddMetrics]) = some arrivals ∧
      arrivals.map (·.bind TypedReport.ofEvent) =
        [some (.process { oddProcess with comm := [0xEF, 0xBF, 0xBD, 0x61] }), none] := by
  have dated : ∀ r ∈ [TypedReport.process oddProcess, .metrics oddMetrics],
      ∃ text, appendStrictRFC3339 r.toEvent.timestamp = some text := by
    intro r member
    have same : r.toEvent.timestamp = .unix 1700000000 := by
      rcases List.mem_pair.mp member with rfl | rfl <;> rfl
    rw [same]
    exact Option.isSome_iff_exists.mp (by decide +kernel)
  obtain ⟨arrivals, decoded, read⟩ := typed_reports_arrive [.process oddProcess, .metrics oddMetrics] dated
  have process : oddProcess.arrived = { oddProcess with comm := [0xEF, 0xBF, 0xBD, 0x61] } := by decide +kernel
  have metrics : (TypedReport.isFinite oddMetrics.cpu && TypedReport.isFinite oddMetrics.mem &&
      TypedReport.isFinite oddMetrics.disk) = false := by decide +kernel
  refine ⟨arrivals, decoded, ?_⟩
  rw [read, List.map_cons, List.map_cons, List.map_nil, TypedReport.arrived, TypedReport.arrived, process, metrics,
    if_neg Bool.false_ne_true]

/-! ### Sampling -/

/-- The category as the key of the table of rates. -/
def Event.categoryName (e : Event) : String := String.ofList (e.category.map fun byte => Char.ofNat byte.toNat)

theorem categoryName_ascii :
    ∀ name ∈ ["metrics", "process", "file", "syscall"],
      String.ofList ((ascii name).map fun byte => Char.ofNat byte.toNat) = name := by
  decide +kernel

theorem shouldSample_category :
    (∀ name ∈ ["metrics", "process", "file"], ∀ draw, shouldSample name draw = true) ∧
      ∀ draw, shouldSample "syscall" draw = draw := by
  decide +kernel

theorem filter_sampled (written : List (Event × Bool)) (passes : Event × Bool → Bool) {name : String}
    (known : name ∈ ["metrics", "process", "file", "syscall"])
    (rate : ∀ event draw, shouldSample name draw = passes (event, draw)) :
    (EdgeClient.sampled Event.categoryName written).filter (·.category = ascii name) =
      ((written.filter passes).map Prod.fst).filter (·.category = ascii name) := by
  unfold EdgeClient.sampled
  rw [List.filter_map, List.filter_map, List.filter_filter, List.filter_filter]
  congr 1
  apply List.filter_congr
  rintro ⟨event, draw⟩ -
  by_cases here : event.category = ascii name
  · have key : event.categoryName = name := by
      unfold Event.categoryName
      rw [here, categoryName_ascii name known]
    simp [here, key, rate event draw]
  · simp [here]

/-- Of what the typed writers write, sampling only ever drops system calls: metrics, process and file events of every run
are all accepted, whatever is drawn, because the table of rates has other names for them. -/
theorem typed_sampling (actions : List (EdgeAction Event)) :
    let accepted := (EdgeClient.run Event.categoryName {} actions).accepted.map Entry.event
    let written := actions.flatMap EdgeAction.written
    (∀ name ∈ ["metrics", "process", "file"],
      accepted.filter (·.category = ascii name) = (written.map Prod.fst).filter (·.category = ascii name)) ∧
    accepted.filter (·.category = ascii "syscall") =
      ((written.filter Prod.snd).map Prod.fst).filter (·.category = ascii "syscall") := by
  intro accepted written
  have all : accepted = EdgeClient.sampled Event.categoryName written := EdgeClient.run_accepted Event.categoryName {} actions
  obtain ⟨always, drawn⟩ := shouldSample_category
  rw [all]
  constructor
  · intro name member
    have known : name ∈ ["metrics", "process", "file", "syscall"] := List.mem_append_left ["syscall"] member
    have kept := filter_sampled written (fun _ => true) known fun _ draw => always name member draw
    rwa [List.filter_true] at kept
  · exact filter_sampled written Prod.snd (by simp) fun _ draw => drawn draw

end StbEbpf.Agent
