import StbEbpf.Agent.Event
import StbEbpf.Lib.SqlInsert

/-!
The writers of `internal/output/clickhouse.go`: the statements they execute, and the rows these put into the tables that
`createTables` sets up. A `float64` is carried as its bits.
-/

namespace StbEbpf.Agent.ClickHouse
open CText

/-- What is bound to a placeholder. -/
inductive Value where
  | time (value : Time)
  | text (value : Bytes)
  | u16 (value : UInt16)
  | u32 (value : UInt32)
  | u64 (value : UInt64)
  | i32 (value : Int32)
  | f64 (bits : UInt64)
  deriving DecidableEq

/-! ### Tables -/

def timestamp : Bytes × Value := (ascii "timestamp", .time (Time.unix 0))

def string (name : String) : Bytes × Value := (ascii name, .text [])

def ebpfEvents : Sql.Table Value where
  name := ascii "cloudflow.ebpf_events"
  columns := [timestamp, string "probe_id", string "category", string "event_type", string "src_ip", string "dst_ip",
    (ascii "src_port", .u16 0), (ascii "dst_port", .u16 0), string "protocol", (ascii "bytes", .u64 0),
    (ascii "packets", .u64 0), (ascii "latency_ms", .f64 0), string "service", string "details", string "tags",
    (ascii "tenant_id", .text (ascii "default")), (ascii "cluster_id", .text (ascii "default"))]

def hostMetrics : Sql.Table Value where
  name := ascii "cloudflow.host_metrics"
  columns := [timestamp, string "probe_id", (ascii "cpu_percent", .f64 0), (ascii "memory_percent", .f64 0),
    (ascii "disk_percent", .f64 0), (ascii "net_rx_bytes", .u64 0), (ascii "net_tx_bytes", .u64 0),
    (ascii "disk_read_bytes", .u64 0), (ascii "disk_write_bytes", .u64 0)]

def processEvents : Sql.Table Value where
  name := ascii "cloudflow.process_events"
  columns := [timestamp, string "probe_id", (ascii "pid", .u32 0), (ascii "ppid", .u32 0), string "comm", string "exe",
    string "args", string "event_type"]

def fileEvents : Sql.Table Value where
  name := ascii "cloudflow.file_events"
  columns := [timestamp, string "probe_id", string "source", string "category", string "details"]

def syscallEvents : Sql.Table Value where
  name := ascii "cloudflow.syscall_events"
  columns := [timestamp, string "probe_id", (ascii "pid", .u32 0), string "comm", (ascii "syscall_nr", .u64 0),
    (ascii "latency_ns", .u64 0), (ascii "count", .u64 0)]

/-! ### Writers -/

/-- One call of `db.Exec`. -/
structure Exec where
  query : Bytes
  args : List Value

def orDefault (id : Bytes) : Bytes := if id = [] then ascii "default" else id

def writeEvent.query : Bytes :=
  ascii "INSERT INTO cloudflow.ebpf_events (timestamp, " ++
    ascii "probe_id, category, event_type, src_ip, dst_ip, " ++
    ascii "src_port, dst_port, protocol, bytes, packets, " ++
    ascii "latency_ms, service, details, tags, " ++
    ascii "tenant_id)\n\t\tVALUES (?, ?, ?, ?, ?, ?, ?, ?, ?, " ++
    ascii "?, ?, ?, ?, ?, ?, ?)"

def writeEvent.args (e : Event) : List Value :=
  [.time e.timestamp, .text e.probeId, .text e.category, .text e.eventType, .text e.srcIp, .text e.dstIp, .u16 e.srcPort,
    .u16 e.dstPort, .text e.protocol, .u64 e.bytes, .u64 e.packets, .f64 e.latencyMs, .text e.service, .text e.details,
    .text e.tags, .text (orDefault e.tenantId)]

def writeEvent (e : Event) : Exec := { query := writeEvent.query, args := writeEvent.args e }

def writeBatch.head : Bytes :=
  ascii "INSERT INTO cloudflow.ebpf_events (timestamp, " ++
    ascii "probe_id, category, event_type, src_ip, dst_ip, " ++
    ascii "src_port, dst_port, protocol, bytes, packets, " ++
    ascii "latency_ms, service, details, tags, tenant_id, " ++
    ascii "cluster_id) VALUES "

def writeBatch.tuple : Bytes := ascii "(?, ?, ?, ?, ?, ?, ?, ?, ?, ?, ?, ?, ?, ?, ?, ?, ?),"

/-- The text grows by one tuple an event, and its last byte is cut off. -/
def writeBatch.query (events : List Event) : Bytes :=
  (events.foldl (fun query _ => query ++ tuple) head).dropLast

def writeBatch.row (e : Event) : List Value :=
  [.time e.timestamp, .text e.probeId, .text e.category, .text e.eventType, .text e.srcIp, .text e.dstIp, .u16 e.srcPort,
    .u16 e.dstPort, .text e.protocol, .u64 e.bytes, .u64 e.packets, .f64 e.latencyMs, .text e.service, .text e.details,
    .text e.tags, .text (orDefault e.tenantId), .text (orDefault e.clusterId)]

def writeBatch (events : List Event) : Option Exec :=
  if events.length = 0 then none
  else some { query := writeBatch.query events, args := events.foldl (fun args e => args ++ writeBatch.row e) [] }

def writeMetrics.query : Bytes :=
  ascii "INSERT INTO cloudflow.host_metrics (timestamp, " ++
    ascii "probe_id, cpu_percent, memory_percent, " ++
    ascii "disk_percent, net_rx_bytes, net_tx_bytes, " ++
    ascii "disk_read_bytes, disk_write_bytes)\n\t\tVALUES (?, " ++
    ascii "?, ?, ?, ?, ?, ?, ?, ?)"

def writeMetrics (now : Time) (probeID : Bytes) (cpu mem disk netRx netTx diskRead diskWrite : UInt64) : Exec where
  query := writeMetrics.query
  args := [.time now, .text probeID, .f64 cpu, .f64 mem, .f64 disk, .u64 netRx, .u64 netTx, .u64 diskRead, .u64 diskWrite]

def writeProcessEvent.query : Bytes :=
  ascii "INSERT INTO cloudflow.process_events (timestamp, " ++
    ascii "probe_id, pid, ppid, comm, exe, args, " ++
    ascii "event_type)\n\t\tVALUES (?, ?, ?, ?, ?, ?, ?, ?)"

def writeProcessEvent (ts : Time) (probeID : Bytes) (pid ppid : UInt32) (comm exe args eventType : Bytes) : Exec where
  query := writeProcessEvent.query
  args := [.time ts, .text probeID, .u32 pid, .u32 ppid, .text comm, .text exe, .text args, .text eventType]

/-- Five columns are listed for seven values. -/
def writeFileEvent.query : Bytes :=
  ascii "INSERT INTO cloudflow.file_events (timestamp, " ++
    ascii "probe_id, source, category, details)\n\t\tVALUES " ++
    ascii "(?, ?, ?, ?, ?, ?, ?)"

def writeFileEvent (ts : Time) (probeID : Bytes) (pid : UInt32) (comm filename operation : Bytes) (result : Int32) :
    Exec where
  query := writeFileEvent.query
  args := [.time ts, .text probeID, .u32 pid, .text comm, .text filename, .text operation, .i32 result]

def writeSyscallEvent.query : Bytes :=
  ascii "INSERT INTO cloudflow.syscall_events (timestamp, " ++
    ascii "probe_id, pid, comm, syscall_nr, latency_ns, " ++
    ascii "count)\n\t\tVALUES (?, ?, ?, ?, ?, ?, ?)"

def writeSyscallEvent (ts : Time) (probeID : Bytes) (pid : UInt32) (comm : Bytes) (syscallNr latencyNs count : UInt64) :
    Exec where
  query := writeSyscallEvent.query
  args := [.time ts, .text probeID, .u32 pid, .text comm, .u64 syscallNr, .u64 latencyNs, .u64 count]

/-! ### Rows -/

/-- The rows that calls put into a table, one after another; `none` if the server refuses one. -/
def inserted (table : Sql.Table Value) : List Exec → Option (List (List Value))
  | [] => some []
  | exec :: execs => do
    let rows ← table.insert exec.query exec.args
    let more ← inserted table execs
    return rows ++ more

/-- A statement that lists the leading columns of a table. -/
theorem insert_leading {table : Sql.Table Value} {query : Bytes} {args : List Value} {count : Nat}
    (read : Sql.readInsert query =
      some { table := table.name, columns := (table.columns.take count).map Prod.fst, tuples := [count] })
    (distinct : (table.columns.map Prod.fst).Nodup) (inside : count ≤ table.columns.length)
    (full : args.length = count) :
    table.insert query args = some [args ++ (table.columns.drop count).map Prod.snd] := by
  have listed : (table.columns.take count).length = count := by rw [List.length_take]; omega
  have rows := table.insert_rows [args] (read.trans (by rw [List.map_singleton, full]))
    (fun name member => (List.map_subset _ (List.take_subset _ _)) member)
    (by rintro row member; rw [List.mem_singleton.mp member, List.length_map, listed, full])
  rw [List.flatten_singleton, List.map_singleton,
    table.row_leading args (List.take_append_drop count _).symm distinct (by omega)] at rows
  exact rows

/-- The texts of the single inserts, read back. -/
theorem queries_read :
    Sql.readInsert writeEvent.query =
        some { table := ebpfEvents.name, columns := (ebpfEvents.columns.take 16).map Prod.fst, tuples := [16] } ∧
      Sql.readInsert writeMetrics.query =
        some { table := hostMetrics.name, columns := hostMetrics.columns.map Prod.fst, tuples := [9] } ∧
      Sql.readInsert writeProcessEvent.query =
        some { table := processEvents.name, columns := processEvents.columns.map Prod.fst, tuples := [8] } ∧
      Sql.readInsert writeSyscallEvent.query =
        some { table := syscallEvents.name, columns := syscallEvents.columns.map Prod.fst, tuples := [7] } ∧
      Sql.readInsert writeFileEvent.query =
        some { table := fileEvents.name, columns := fileEvents.columns.map Prod.fst, tuples := [7] } := by
  unfold writeEvent.query writeMetrics.query writeProcessEvent.query writeSyscallEvent.query writeFileEvent.query
  repeat rw [ascii_ofList]
  decide +kernel

theorem columns_distinct :
    (ebpfEvents.columns.map Prod.fst).Nodup ∧ (hostMetrics.columns.map Prod.fst).Nodup ∧
      (processEvents.columns.map Prod.fst).Nodup ∧ (syscallEvents.columns.map Prod.fst).Nodup := by
  decide +kernel

theorem writeEvent_inserts (e : Event) :
    ebpfEvents.insert writeEvent.query (writeEvent.args e) = some [writeEvent.args e ++ [.text (ascii "default")]] := by
  have inside : 16 ≤ ebpfEvents.columns.length := Nat.le_succ 16
  exact insert_leading queries_read.1 columns_distinct.1 inside rfl

theorem inserted_writeEvent (events : List Event) :
    inserted ebpfEvents (events.map writeEvent) =
      some (events.map fun e => writeEvent.args e ++ [.text (ascii "default")]) := by
  induction events with
  | nil => rfl
  | cons e events ih =>
    rw [List.map_cons, inserted, writeEvent, writeEvent_inserts, ih]
    rfl

/-! ### Batches -/

theorem foldl_append_tuple (events : List Event) (query : Bytes) :
    events.foldl (fun query _ => query ++ writeBatch.tuple) query =
      query ++ (List.replicate events.length writeBatch.tuple).flatten := by
  induction events generalizing query with
  | nil => exact (List.append_nil query).symm
  | cons e events ih =>
    rw [List.foldl_cons, ih, List.length_cons, List.replicate_succ, List.flatten_cons, List.append_assoc]

theorem foldl_append_row (events : List Event) (args : List Value) :
    events.foldl (fun args e => args ++ writeBatch.row e) args = args ++ (events.map writeBatch.row).flatten := by
  induction events generalizing args with
  | nil => exact (List.append_nil args).symm
  | cons e events ih => rw [List.foldl_cons, ih, List.map_cons, List.flatten_cons, List.append_assoc]

/-- The byte that is cut off is the comma behind the last tuple. -/
theorem writeBatch_query (e : Event) (events : List Event) :
    writeBatch.query (e :: events) =
      writeBatch.head ++ ((List.replicate events.length writeBatch.tuple).flatten ++ writeBatch.tuple.dropLast) := by
  have some_tuple : writeBatch.tuple ≠ [] := by
    rw [writeBatch.tuple, ascii_ofList]
    exact List.cons_ne_nil _ _
  rw [writeBatch.query, foldl_append_tuple, List.length_cons, List.replicate_succ', List.flatten_append,
    List.flatten_singleton, ← List.append_assoc, List.dropLast_append_of_ne_nil some_tuple, List.append_assoc]

/-- What stands before the tuples, a tuple with its comma, and the last tuple without. -/
theorem batch_read :
    Sql.Ends writeBatch.head ∧
      Sql.tokens writeBatch.head = Sql.heading ebpfEvents.name (ebpfEvents.columns.map Prod.fst) ∧
      Sql.Ends writeBatch.tuple ∧ Sql.tokens writeBatch.tuple = Sql.placeholders 17 ++ [.comma] ∧
      Sql.tokens writeBatch.tuple.dropLast = Sql.placeholders 17 := by
  unfold writeBatch.head writeBatch.tuple
  repeat rw [ascii_ofList]
  decide +kernel

theorem tokens_tuples (count : Nat) :
    Sql.tokens ((List.replicate count writeBatch.tuple).flatten ++ writeBatch.tuple.dropLast) =
      (List.replicate count (Sql.placeholders 17 ++ [.comma])).flatten ++ Sql.placeholders 17 := by
  obtain ⟨-, -, ends, one, last⟩ := batch_read
  induction count with
  | zero => exact last
  | succ count ih =>
    rw [List.replicate_succ, List.flatten_cons, List.append_assoc, Sql.tokens_append ends, ih, one, List.replicate_succ,
      List.flatten_cons, List.append_assoc (Sql.placeholders 17 ++ _)]

theorem readInsert_batch (e : Event) (events : List Event) :
    Sql.readInsert (writeBatch.query (e :: events)) =
      some { table := ebpfEvents.name, columns := ebpfEvents.columns.map Prod.fst,
             tuples := List.replicate (events.length + 1) 17 } := by
  obtain ⟨ends, headed, -⟩ := batch_read
  rw [writeBatch_query]
  apply Sql.readInsert_values ends (List.cons_ne_nil _ _) headed
  rw [tokens_tuples]
  exact Sql.readTuples_repeated (by decide) events.length

theorem inserted_writeBatch (events : List Event) :
    inserted ebpfEvents (writeBatch events).toList = some (events.map writeBatch.row) := by
  cases events with
  | nil => rfl
  | cons e events =>
    have lengths : ((e :: events).map writeBatch.row).map List.length = List.replicate (events.length + 1) 17 := by
      rw [List.map_map, List.eq_replicate_iff]
      refine ⟨by simp, fun length member => ?_⟩
      obtain ⟨one, _, rfl⟩ := List.mem_map.mp member
      rfl
    have rows := ebpfEvents.insert_rows ((e :: events).map writeBatch.row)
      ((readInsert_batch e events).trans (by rw [lengths])) (fun _ member => member)
      (by intro row member; obtain ⟨one, _, rfl⟩ := List.mem_map.mp member; rfl)
    have whole (values : List Value) (full : values.length = 17) :
        ebpfEvents.row (ebpfEvents.columns.map Prod.fst) values = values := by
      have leading := ebpfEvents.row_leading values (List.append_nil _).symm columns_distinct.1 full
      rwa [List.map_nil, List.append_nil] at leading
    have same : ((e :: events).map writeBatch.row).map (ebpfEvents.row (ebpfEvents.columns.map Prod.fst)) =
        (e :: events).map writeBatch.row := by
      rw [List.map_map]
      exact List.map_congr_left fun one _ => whole _ rfl
    rw [same] at rows
    rw [writeBatch, if_neg (by simp), Option.toList_some, inserted, foldl_append_row, List.nil_append, rows]
    simp [inserted]

theorem batch_row_eq_iff (e : Event) :
    writeBatch.row e = writeEvent.args e ++ [.text (ascii "default")] ↔
      e.clusterId = [] ∨ e.clusterId = ascii "default" := by
  have same : writeBatch.row e = writeEvent.args e ++ [.text (orDefault e.clusterId)] := rfl
  rw [same, List.append_cancel_left_eq, List.singleton_inj, Value.text.injEq, orDefault]
  by_cases unset : e.clusterId = []
  · simp [unset]
  · simp [unset]

/-- A batch puts the rows of its events, written one by one, into the table exactly if no event names a cluster of its
own: the single insert leaves the cluster to the default of the column. -/
theorem batch_agrees_with_single_iff (events : List Event) :
    (∃ rows, inserted ebpfEvents (writeBatch events).toList = some rows ∧
      inserted ebpfEvents (events.map writeEvent) = some rows) ↔
      ∀ e ∈ events, e.clusterId = [] ∨ e.clusterId = ascii "default" := by
  rw [inserted_writeBatch, inserted_writeEvent]
  constructor
  · rintro ⟨rows, batch, single⟩ e member
    have rowwise := List.map_inj_left.mp (Option.some.inj (batch.trans single.symm))
    exact (batch_row_eq_iff e).mp (rowwise e member)
  · intro unnamed
    refine ⟨_, rfl, congrArg some (List.map_congr_left fun e member => ?_)⟩
    exact ((batch_row_eq_iff e).mpr (unnamed e member)).symm

def clustered : Event := { timestamp := Time.unix 0, clusterId := ascii "prod" }

theorem cluster_lost_by_single :
    ¬ ∃ rows, inserted ebpfEvents (writeBatch [clustered]).toList = some rows ∧
      inserted ebpfEvents ([clustered].map writeEvent) = some rows := by
  rw [inserted_writeBatch, inserted_writeEvent]
  rintro ⟨rows, batch, single⟩
  have rowwise := List.map_inj_left.mp (Option.some.inj (batch.trans single.symm))
  have unnamed := (batch_row_eq_iff clustered).mp (rowwise clustered (List.mem_singleton_self clustered))
  exact absurd unnamed (by decide)

/-! ### The other tables -/

/-- A statement that lists all columns puts its arguments into the table as they are. -/
theorem inserted_whole {table : Sql.Table Value} {exec : Exec}
    (read : Sql.readInsert exec.query =
      some { table := table.name, columns := table.columns.map Prod.fst, tuples := [table.columns.length] })
    (distinct : (table.columns.map Prod.fst).Nodup) (full : exec.args.length = table.columns.length) :
    inserted table [exec] = some [exec.args] := by
  have row : table.insert exec.query exec.args = some [exec.args ++ (table.columns.drop table.columns.length).map Prod.snd] :=
    insert_leading (by rw [read, List.take_length]) distinct le_rfl full
  rw [List.drop_length, List.map_nil, List.append_nil] at row
  rw [inserted, row]
  rfl

theorem writeMetrics_inserts (now : Time) (probeID : Bytes) (cpu mem disk netRx netTx diskRead diskWrite : UInt64) :
    inserted hostMetrics [writeMetrics now probeID cpu mem disk netRx netTx diskRead diskWrite] =
      some [[.time now, .text probeID, .f64 cpu, .f64 mem, .f64 disk, .u64 netRx, .u64 netTx, .u64 diskRead,
        .u64 diskWrite]] := by
  obtain ⟨-, read, -⟩ := queries_read
  obtain ⟨-, distinct, -⟩ := columns_distinct
  exact inserted_whole read distinct rfl

theorem writeProcessEvent_inserts (ts : Time) (probeID : Bytes) (pid ppid : UInt32) (comm exe args eventType : Bytes) :
    inserted processEvents [writeProcessEvent ts probeID pid ppid comm exe args eventType] =
      some [[.time ts, .text probeID, .u32 pid, .u32 ppid, .text comm, .text exe, .text args, .text eventType]] := by
  obtain ⟨-, -, read, -⟩ := queries_read
  obtain ⟨-, -, distinct, -⟩ := columns_distinct
  exact inserted_whole read distinct rfl

theorem writeSyscallEvent_inserts (ts : Time) (probeID : Bytes) (pid : UInt32) (comm : Bytes)
    (syscallNr latencyNs count : UInt64) :
    inserted syscallEvents [writeSyscallEvent ts probeID pid comm syscallNr latencyNs count] =
      some [[.time ts, .text probeID, .u32 pid, .text comm, .u64 syscallNr, .u64 latencyNs, .u64 count]] := by
  obtain ⟨-, -, -, read, -⟩ := queries_read
  obtain ⟨-, -, -, distinct⟩ := columns_distinct
  exact inserted_whole read distinct rfl

/-- No file event reaches its table: the tuple is longer than the list of columns. -/
theorem writeFileEvent_refused (ts : Time) (probeID : Bytes) (pid : UInt32) (comm filename operation : Bytes)
    (result : Int32) : inserted fileEvents [writeFileEvent ts probeID pid comm filename operation result] = none := by
  obtain ⟨-, -, -, -, read⟩ := queries_read
  have refused : fileEvents.insert writeFileEvent.query
      (writeFileEvent ts probeID pid comm filename operation result).args = none := by
    rw [Sql.Table.insert, read]
    dsimp only
    rw [if_neg]
    rintro ⟨_, _, full⟩
    have five : 7 = 5 := full 7 (List.mem_singleton_self 7)
    exact absurd five (by decide)
  rw [inserted]
  exact congrArg (Option.bind · _) refused

end StbEbpf.Agent.ClickHouse
